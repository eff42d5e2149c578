/-! Binary64 numbers, held exactly as signed counts of the least positive step `2 ^ -1074`. -/

namespace Conform

/-- A finite magnitude of `significand <<< shift` steps, in its one canonical form. -/
structure Magnitude where
  significand : Nat
  shift : Nat
  significand_lt : significand < 1 <<< 53
  shift_le : shift ≤ 2045
  normal : shift = 0 ∨ 1 <<< 52 ≤ significand
deriving DecidableEq

namespace Magnitude

def zero : Magnitude := ⟨0, 0, by decide, by decide, .inl rfl⟩

/-- How many steps the magnitude counts. -/
def steps (m : Magnitude) : Nat := m.significand <<< m.shift

/-- The number of steps in one unit. -/
def unit : Nat := 1 <<< 1074

end Magnitude

inductive Number where
  | nan
  | infinity (negative : Bool)
  | finite (negative : Bool) (magnitude : Magnitude)
deriving DecidableEq

namespace Number

def signed (negative : Bool) (n : Nat) : Int := if negative then -n else n

/-- Where a number lies on the line, counted in steps: both zeros lie at zero, the infinities lie
one binade past the largest finite numbers, and NaN lies nowhere. -/
def position : Number → Option Int
  | nan => none
  | infinity negative => some (signed negative (1 <<< 2098))
  | finite negative m => some (signed negative m.steps)

def isNaN (a : Number) : Bool := a.position.isNone

def lt (a b : Number) : Bool :=
  match a.position, b.position with
  | some x, some y => x < y
  | _, _ => false

/-- Equality of positions, so that NaN differs from itself and the zeros agree. -/
def equals (a b : Number) : Bool :=
  match a.position, b.position with
  | some x, some y => x == y
  | _, _ => false

def isZero (a : Number) : Bool := a.position == some 0

/-- A finite number without a fractional part. -/
def isIntegral : Number → Bool
  | finite _ m => m.steps % Magnitude.unit == 0
  | _ => false

def negativeZero : Number := finite true .zero

end Number

end Conform
