import Conform.Number.Basic

/-! The nearest number to a ratio: a tie goes to the even significand, and a ratio past the largest
number goes to infinity. -/

namespace Conform

/-- The integer nearest to `num / den`; a half goes to the even neighbour. -/
def divNearestEven (num den : Nat) : Nat :=
  let quotient := num / den
  let twice := 2 * (num % den)
  if twice < den then quotient
  else if den < twice then quotient + 1
  else quotient + quotient % 2

namespace Magnitude

/-- Puts a rounded significand into canonical form; `none` past the largest magnitude. -/
def ofRounded? (significand shift : Nat) : Option Magnitude :=
  if h : significand < 1 <<< 53 ∧ shift ≤ 2045 ∧ (shift = 0 ∨ 1 <<< 52 ≤ significand) then
    some ⟨significand, shift, h.1, h.2.1, h.2.2⟩
  else if h : shift + 1 ≤ 2045 ∧ significand = 1 <<< 53 then
    some ⟨1 <<< 52, shift + 1, by decide, h.1, .inr (Nat.le_refl _)⟩
  else
    none

/-- The magnitude nearest to `num / den` steps. -/
def nearest? (num den : Nat) : Option Magnitude :=
  let shift := (num / den).log2 - 52
  ofRounded? (divNearestEven num (den <<< shift)) shift

end Magnitude

namespace Number

/-- The number nearest to `num / den`, with the given sign. -/
def ofRatio (negative : Bool) (num den : Nat) : Number :=
  match Magnitude.nearest? (num * Magnitude.unit) den with
  | some m => finite negative m
  | none => infinity negative

def ofNat (n : Nat) : Number := ofRatio false n 1

def ofInt (n : Int) : Number := ofRatio (decide (n < 0)) n.natAbs 1

end Number

end Conform
