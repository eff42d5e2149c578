import Conform.Number.Text

/-! Reading numbers from decimal literals. -/

namespace Conform

/-- A sign, digits before and after a point, and an exponent. -/
structure DecimalLiteral where
  negative : Bool
  whole : List Char
  fraction : Option (List Char)
  exponent : Option Int

namespace DecimalLiteral

def digitsValue (digits : List Char) : Nat := Nat.ofDigitChars 10 digits 0

def decimal (l : DecimalLiteral) : Decimal :=
  let fraction := l.fraction.getD []
  ⟨digitsValue (l.whole ++ fraction), l.exponent.getD 0 - fraction.length⟩

def number (l : DecimalLiteral) : Number := .ofDecimal l.negative l.decimal

/-- Takes an exponent off the front, if one is there. -/
def scanExponent (cs : List Char) : Option Int × List Char :=
  match cs with
  | e :: rest =>
    if e = 'e' ∨ e = 'E' then
      let negative := rest.head? = some '-'
      let unsigned := if negative ∨ rest.head? = some '+' then rest.drop 1 else rest
      let digits := unsigned.takeWhile Char.isDigit
      if digits.isEmpty then (none, cs)
      else (some (Number.signed negative (digitsValue digits)), unsigned.dropWhile Char.isDigit)
    else (none, cs)
  | [] => (none, cs)

def scanFraction (cs : List Char) : Option (List Char) × List Char :=
  match cs with
  | '.' :: rest => (some (rest.takeWhile Char.isDigit), rest.dropWhile Char.isDigit)
  | _ => (none, cs)

/-- The longest literal at the front, its sign aside, and what follows it. -/
def scanUnsigned (negative : Bool) (cs : List Char) : DecimalLiteral × List Char :=
  let whole := cs.takeWhile Char.isDigit
  let (fraction, rest) := scanFraction (cs.dropWhile Char.isDigit)
  let (exponent, rest) := scanExponent rest
  (⟨negative, whole, fraction, exponent⟩, rest)

/-- The longest literal at the front, with a minus sign or without a sign. -/
def scan : List Char → DecimalLiteral × List Char
  | '-' :: rest => scanUnsigned true rest
  | cs => scanUnsigned false cs

/-- Whether there is a digit before or after the point. -/
def hasDigits (l : DecimalLiteral) : Bool := !(l.whole ++ l.fraction.getD []).isEmpty

end DecimalLiteral

namespace Number

/-- Reads a number without its sign from the whole of a text. Names are read in any case. -/
def readUnsigned? (negative : Bool) (cs : List Char) : Option Number :=
  let name := String.ofList (cs.map Char.toLower)
  if name = "nan" then some nan
  else if name = "infinity" ∨ name = "inf" then some (infinity negative)
  else
    let (literal, rest) := DecimalLiteral.scanUnsigned negative cs
    if rest.isEmpty && literal.hasDigits then some literal.number else none

/-- Reads a number from the whole of a text, with a sign or without. -/
def read? (s : String) : Option Number :=
  match s.toList with
  | '-' :: rest => readUnsigned? true rest
  | '+' :: rest => readUnsigned? false rest
  | cs => readUnsigned? false cs

end Number

end Conform
