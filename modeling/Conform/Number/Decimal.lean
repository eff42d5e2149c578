import Conform.Number.Rounding

/-! Decimal numerals for numbers: the number nearest to a decimal, and the decimal on the coarsest
power-of-ten grid that reads back as a given magnitude. -/

namespace Conform

/-- The value `digits * 10 ^ exponent`. -/
structure Decimal where
  digits : Nat
  exponent : Int
deriving DecidableEq

namespace Decimal

def numerator (d : Decimal) : Nat := d.digits * Nat.pow 10 d.exponent.toNat

def denominator (d : Decimal) : Nat := Nat.pow 10 (-d.exponent).toNat

/-- No decimal with a greater exponent is finite once rounded. -/
def exponentLimit : Int := 400

/-- A decimal that rounds to zero by its exponent alone. -/
def vanishes (d : Decimal) : Bool := d.exponent < -(exponentLimit + d.digits.log2 + 1)

/-- The nearest magnitude, or `none` when that is infinite. -/
def magnitude? (d : Decimal) : Option Magnitude :=
  if d.digits = 0 ∨ d.vanishes then some .zero
  else if exponentLimit < d.exponent then none
  else Magnitude.nearest? (d.numerator * Magnitude.unit) d.denominator

end Decimal

def Number.ofDecimal (negative : Bool) (d : Decimal) : Number :=
  match d.magnitude? with
  | some m => finite negative m
  | none => infinity negative

/-- Which of two equally near decimals is chosen: the upper one, or the one with an even last
digit. -/
inductive Tie where
  | up | even
deriving DecidableEq

/-- Whether `num / den` rounds up to an integer. -/
def Tie.goesUp (tie : Tie) (num den : Nat) : Bool :=
  let twice := 2 * (num % den)
  den < twice || (twice == den && (tie = .up || num / den % 2 == 1))

namespace Magnitude

def readsBack (m : Magnitude) (d : Decimal) : Bool := d.magnitude? == some m

/-- The neighbours of a magnitude among the multiples of `10 ^ exponent` that read back as it: the
nearer one, or the one that the tie rule chooses if both are equally near. -/
def onGrid? (m : Magnitude) (tie : Tie) (exponent : Int) : Option Decimal :=
  let num := m.steps * Nat.pow 10 (-exponent).toNat
  let den := unit * Nat.pow 10 exponent.toNat
  let lower : Decimal := ⟨num / den, exponent⟩
  let upper : Decimal := ⟨num / den + 1, exponent⟩
  if !m.readsBack upper then if m.readsBack lower then some lower else none
  else if !m.readsBack lower then some upper
  else if tie.goesUp num den then some upper
  else some lower

/-- Every digit of a magnitude: a step is `5 ^ 1074 * 10 ^ -1074`. -/
def exactDecimal (m : Magnitude) : Decimal := ⟨m.steps * Nat.pow 5 1074, -1074⟩

/-- An exponent of ten above the magnitude. -/
def decimalCeiling (m : Magnitude) : Int :=
  (((m.steps.log2 : Int) - 1073) * 30103).fdiv 100000 + 2

/-- The shortest decimal that reads back, found on the coarsest grid that holds one. -/
def shortest (m : Magnitude) (tie : Tie) : Decimal :=
  if m.steps = 0 then ⟨0, 0⟩
  else
    let grids := (List.range 24).map fun (i : Nat) => m.decimalCeiling - i
    (grids.findSome? (m.onGrid? tie)).getD m.exactDecimal

end Magnitude

end Conform
