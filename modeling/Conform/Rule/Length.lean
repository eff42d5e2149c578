import Conform.ConfigError
import Conform.Rule.Violation

/-! Bounds on the length of a string or an array. -/

namespace Conform

inductive LengthRule where
  | exactly (length : Nat)
  | between (min max : Option Nat)
deriving DecidableEq

namespace LengthRule

def unbounded : LengthRule := between none none

def exactLength? : LengthRule → Option Nat
  | exactly length => some length
  | between _ _ => none

/-- Equal bounds are an exact length. -/
def ofBetween (min max : Option Nat) : LengthRule :=
  match min, max with
  | some a, some b => if a = b then exactly a else between min max
  | _, _ => between min max

/-- An exact length takes the place of bounds that admit it. Bounds in the wrong order are reported
before a clash with the exact length, and a clash with the lower bound before one with the upper. -/
def ofBounds (length min max : Option Nat) : Except ConfigError LengthRule :=
  match min, max with
  | some a, some b => if b < a then .error (.lengthBounds a b) else withLength length min max
  | _, _ => withLength length min max
where
  withLength (length min max : Option Nat) : Except ConfigError LengthRule :=
    match length with
    | none => .ok (ofBetween min max)
    | some n =>
      match min.filter (n < ·), max.filter (· < n) with
      | some a, _ => .error (.lengthBelowMin n a)
      | none, some b => .error (.lengthAboveMax n b)
      | none, none => .ok (exactly n)

/-- The first bound that a length breaks. -/
def violation? : LengthRule → Nat → Option Violation
  | exactly length, actual => if actual = length then none else some (.wrongLength length actual)
  | between min max, actual =>
    ((min.filter (actual < ·)).map (.tooShort · actual)) <|>
      ((max.filter (· < actual)).map (.tooLong · actual))

end LengthRule

end Conform
