import Conform.Number.Decimal

/-! Written forms of numbers: the form of messages, and the form of numbers quoted from
documents. -/

namespace Conform

namespace Decimal

def digitText (d : Decimal) : String := Nat.repr d.digits

/-- The exponent of the leading digit. -/
def magnitudeExponent (d : Decimal) : Int := d.exponent + d.digitText.length - 1

def zeros (n : Nat) : String := "".pushn '0' n

/-- Cuts the digits after the first `n` of them. -/
def splitDigits (d : Decimal) (n : Nat) : String × String :=
  let digits := d.digitText.toList
  (String.ofList (digits.take n), String.ofList (digits.drop n))

/-- Positional notation, with a point only before a fraction. -/
def positional (d : Decimal) : String :=
  let leading := d.magnitudeExponent
  if 0 ≤ d.exponent then d.digitText ++ zeros d.exponent.toNat
  else if 0 ≤ leading then
    let (whole, fraction) := d.splitDigits (leading.toNat + 1)
    whole ++ "." ++ fraction
  else "0." ++ zeros (-leading - 1).toNat ++ d.digitText

/-- One digit before the point, and an exponent that always has a sign. -/
def scientific (d : Decimal) : String :=
  let (whole, fraction) := d.splitDigits 1
  let mantissa := if fraction.isEmpty then whole else whole ++ "." ++ fraction
  let exponent := d.magnitudeExponent
  let sign := if exponent < 0 then "-" else "+"
  mantissa ++ "e" ++ sign ++ Nat.repr exponent.natAbs

end Decimal

namespace Number

/-- The least magnitude written positionally. -/
def positionalFloor : Number := ofDecimal false ⟨1, -6⟩

/-- The least magnitude above the positional ones. -/
def positionalCeiling : Number := ofDecimal false ⟨1, 21⟩

/-- The written form of a magnitude other than zero. -/
def magnitudeText (m : Magnitude) : String :=
  let n := finite false m
  let d := m.shortest .up
  if n.lt positionalFloor || !n.lt positionalCeiling then d.scientific else d.positional

def signText (negative : Bool) : String := if negative then "-" else ""

/-- The written form of a number in messages. Both zeros are written `0`. -/
def text : Number → String
  | nan => "NaN"
  | infinity negative => signText negative ++ "Infinity"
  | finite negative m => if m.steps = 0 then "0" else signText negative ++ magnitudeText m

/-- As `text`, but the zeros are told apart. -/
def signedText (n : Number) : String := if n = negativeZero then "-0" else n.text

/-- The written form of a number quoted from a document: a point is always present in positional
notation, which reaches from `0.00001` up to sixteen digits before the point. -/
def literalText : Number → String
  | finite negative m =>
    let d := m.shortest .even
    let leading := d.magnitudeExponent
    let body :=
      if leading < -5 || 15 < leading then d.scientific
      else if 0 ≤ d.exponent then d.positional ++ ".0"
      else d.positional
    signText negative ++ body
  | n => n.text

end Number

end Conform
