import Conform.Json.Basic
import Conform.Number.Reading

/-! Numerals of JSON text. An integer that fits 64 bits is kept. Any other numeral is scaled: as
many digits as fit 64 bits are rounded to a number, which is then multiplied or divided by a rounded
power of ten, so that the result can be a step off the nearest number. -/

namespace Conform

namespace Magnitude

/-- The nearest magnitude to a product, or `none` when that is infinite. -/
def mul? (a b : Magnitude) : Option Magnitude := nearest? (a.steps * b.steps) unit

/-- The nearest magnitude to a quotient. -/
def div? (a b : Magnitude) : Option Magnitude := nearest? (a.steps * unit) b.steps

/-- The exponent of the last power of ten that is finite. -/
def lastPower : Nat := 308

def tenTo? (exponent : Nat) : Option Magnitude := Decimal.magnitude? ⟨1, exponent⟩

/-- Scales by a power of ten, in one step as far as the powers reach and otherwise in two; what two
steps down do not reach is zero. -/
def scale? (m : Magnitude) (exponent : Int) : Option Magnitude := do
  if m.steps = 0 then return zero
  else if 0 ≤ exponent then m.mul? (← tenTo? exponent.toNat)
  else
    let down := (-exponent).toNat
    if down ≤ lastPower then m.div? (← tenTo? down)
    else if down ≤ 2 * lastPower then
      (← m.div? (← tenTo? lastPower)).div? (← tenTo? (down - lastPower))
    else return zero

end Magnitude

namespace DecimalLiteral

/-- One past the greatest significand. -/
def significandCeiling : Nat := 0x10000000000000000

/-- Adds digits before the point. From the first digit on that does not fit, each only raises the
exponent. -/
def gatherWhole (digits : Nat) : List Char → Decimal
  | [] => ⟨digits, 0⟩
  | c :: rest =>
    let next := 10 * digits + digitsValue [c]
    if next < significandCeiling then gatherWhole next rest else ⟨digits, (c :: rest).length⟩

/-- Adds digits after the point, up to the first that does not fit. -/
def gatherFraction (d : Decimal) : List Char → Decimal
  | [] => d
  | c :: rest =>
    let next := 10 * d.digits + digitsValue [c]
    if next < significandCeiling then gatherFraction ⟨next, d.exponent - 1⟩ rest else d

def gathered (l : DecimalLiteral) : Decimal :=
  let d := gatherFraction (gatherWhole 0 l.whole) (l.fraction.getD [])
  ⟨d.digits, d.exponent + l.exponent.getD 0⟩

/-- The scaled number, unless it is past all numbers. -/
def scaled? (l : DecimalLiteral) : Option Number := do
  let significand ← Magnitude.nearest? (l.gathered.digits * Magnitude.unit) 1
  return .finite l.negative (← significand.scale? l.gathered.exponent)

/-- A literal without fraction and exponent is an integer if it fits, except for minus zero. -/
def numeral? (l : DecimalLiteral) : Option Numeral :=
  let value := Number.signed l.negative (digitsValue l.whole)
  if h : l.fraction = none ∧ l.exponent = none ∧ ¬(l.negative ∧ value = 0) ∧ Fits64 value then
    some (.integer value h.2.2.2)
  else l.scaled?.map .float

end DecimalLiteral

end Conform
