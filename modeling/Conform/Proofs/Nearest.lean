import Conform.Proofs.NumberReading
import Mathlib.Algebra.Order.Ring.Unbundled.Rat
import Mathlib.Algebra.Order.Field.Basic
import Mathlib.Data.Rat.Cast.Order
import Mathlib.Tactic.FieldSimp
import Mathlib.Tactic.SplitIfs

/-! Rounding goes to the nearest number. -/

namespace Conform

variable {num den : Nat}

/-- How far apart two counts are. -/
def gap (a b : Nat) : Nat := ((a : Int) - b).natAbs

/-- Different multiples are apart by what they are multiples of. -/
theorem le_gap_mul {k q : Nat} (h : k ≠ q) (den : Nat) : den ≤ gap (k * den) (q * den) := by
  unfold gap
  rcases Nat.lt_or_gt_of_ne h with hlt | hgt
  · have := Nat.mul_le_mul_right den hlt
    rw [Nat.succ_mul] at this
    omega
  · have := Nat.mul_le_mul_right den hgt
    rw [Nat.succ_mul] at this
    omega

theorem gap_zero (a : Nat) : gap a 0 = a := by
  unfold gap
  omega

theorem gap_triangle (a b c : Nat) : gap b c ≤ gap a b + gap a c := by
  unfold gap
  omega

/-- Nearer than a half, or a half away from an even quotient. -/
theorem gap_divNearestEven (hden : 0 < den) (num : Nat) :
    2 * gap num (divNearestEven num den * den) < den ∨
      2 * gap num (divNearestEven num den * den) = den ∧ divNearestEven num den % 2 = 0 := by
  have hnum : num / den * den + num % den = num := Nat.div_add_mod' num den
  have hmod : num % den < den := Nat.mod_lt num hden
  have hsucc : (num / den + 1) * den = num / den * den + den := Nat.succ_mul _ _
  unfold gap divNearestEven
  dsimp only
  split_ifs with hlow hhigh
  · omega
  · rw [hsucc]
    omega
  · rcases Nat.mod_two_eq_zero_or_one (num / den) with heven | hodd
    · rw [heven, Nat.add_zero]
      omega
    · rw [hodd, hsucc]
      omega

/-- No natural number is closer to a fraction than the one it is rounded to. -/
theorem divNearestEven_closest (hden : 0 < den) (num k : Nat) :
    gap num (divNearestEven num den * den) ≤ gap num (k * den) := by
  by_cases hk : k = divNearestEven num den
  · exact Nat.le_of_eq (congrArg (fun k => gap num (k * den)) hk.symm)
  · have hstep := le_gap_mul hk den
    have htriangle := gap_triangle num (k * den) (divNearestEven num den * den)
    have hhalf := gap_divNearestEven hden num
    omega

/-- Only around a half is another multiple as near. -/
theorem divNearestEven_even (hden : 0 < den) {k : Nat} (hk : k ≠ divNearestEven num den)
    (h : gap num (k * den) = gap num (divNearestEven num den * den)) :
    divNearestEven num den % 2 = 0 := by
  have hstep := le_gap_mul hk den
  have htriangle := gap_triangle num (k * den) (divNearestEven num den * den)
  have hhalf := gap_divNearestEven hden num
  omega

theorem divNearestEven_between (low high : Nat) (hden : 0 < den) (hlow : low * den ≤ num)
    (hhigh : num ≤ high * den) :
    low ≤ divNearestEven num den ∧ divNearestEven num den ≤ high := by
  have hnear (k : Nat) := divNearestEven_closest hden num k
  unfold gap at hnear
  constructor
  · refine Nat.not_lt.mp fun hlt => ?_
    have hstep := Nat.mul_le_mul_right den hlt
    rw [Nat.succ_mul] at hstep
    have := hnear low
    omega
  · refine Nat.not_lt.mp fun hlt => ?_
    have hstep := Nat.mul_le_mul_right den hlt
    rw [Nat.succ_mul] at hstep
    have := hnear high
    omega

namespace Magnitude

/-- Where the infinities lie, one binade past the largest magnitudes. -/
def ceiling : Nat := 1 <<< 2098

/-- The steps of a rounded magnitude, which may be infinite. -/
def reach : Option Magnitude → Nat
  | some m => m.steps
  | none => ceiling

/-- A magnitude to which a tie goes. -/
def isEven : Option Magnitude → Bool
  | some m => m.significand % 2 == 0
  | none => true

/-- A rounded significand, in whatever form, counts as many steps as before. -/
theorem reach_ofRounded? {significand shift : Nat} (hshift : shift ≤ 2045)
    (hle : significand ≤ 1 <<< 53) (hnormal : shift = 0 ∨ 1 <<< 52 ≤ significand) :
    reach (ofRounded? significand shift) = significand <<< shift ∧
      (significand % 2 = 0 → isEven (ofRounded? significand shift) = true) := by
  unfold ofRounded?
  split_ifs with hfits hcarry
  · exact ⟨rfl, beq_of_eq⟩
  · refine ⟨?_, fun _ => (by decide : (1 <<< 52 % 2 == 0) = true)⟩
    obtain ⟨-, rfl⟩ := hcarry
    rw [reach, steps, ← Nat.shiftLeft_add, ← Nat.shiftLeft_add,
      show 52 + (shift + 1) = 53 + shift by omega]
  · have hsignificand : significand = 1 <<< 53 := by omega
    have hmax : shift = 2045 := by omega
    subst hsignificand hmax
    exact ⟨(Nat.shiftLeft_add 1 53 2045), fun _ => rfl⟩

/-- A shift beyond the greatest magnitude leads to none. -/
theorem ofRounded?_of_large {significand shift : Nat} (h : 2045 < shift) :
    ofRounded? significand shift = none := by
  rw [ofRounded?, dif_neg (by omega), dif_neg (by omega)]

/-- Whatever may be rounded to is a multiple of each unit, or is below all that is rounded
with it. -/
theorem reach_cases (b : Option Magnitude) {shift : Nat} (hshift : shift ≤ 2045) :
    (∃ k, reach b = k * 1 <<< shift) ∨ shift ≠ 0 ∧ reach b < 1 <<< 52 * 1 <<< shift := by
  cases b with
  | none =>
    refine .inl ⟨1 <<< (2098 - shift), ?_⟩
    rw [← shiftLeft_eq_mul, ← Nat.shiftLeft_add, Nat.sub_add_cancel (by omega), reach, ceiling]
  | some m =>
    rcases Nat.lt_or_ge m.shift shift with hlt | hge
    · refine .inr ⟨by omega, ?_⟩
      calc m.steps < (1 <<< 53) <<< m.shift := m.steps_lt_shiftLeft
        _ = 1 <<< (53 + m.shift) := (Nat.shiftLeft_add 1 53 m.shift).symm
        _ ≤ 1 <<< (52 + shift) := shiftLeft_mono 1 (by omega)
        _ = 1 <<< 52 * 1 <<< shift := by rw [Nat.shiftLeft_add, shiftLeft_eq_mul]
    · refine .inl ⟨m.significand <<< (m.shift - shift), ?_⟩
      rw [← shiftLeft_eq_mul, ← Nat.shiftLeft_add, Nat.sub_add_cancel hge, reach, steps]

theorem reach_le (b : Option Magnitude) : reach b ≤ ceiling := by
  cases b with
  | none => exact Nat.le_refl _
  | some m => exact Nat.le_of_lt m.steps_lt

theorem shiftLeft_mul_shiftLeft (k den shift : Nat) :
    1 <<< k * (den * 1 <<< shift) = 1 <<< (k + shift) * den := by
  rw [Nat.mul_comm den, ← Nat.mul_assoc, ← shiftLeft_eq_mul (1 <<< k), Nat.shiftLeft_add]

/-- What the shift of a quotient says of its size. -/
theorem quotient_bounds (hden : 0 < den) {shift : Nat} (h : (num / den).log2 - 52 = shift) :
    num ≤ 1 <<< 53 * (den * 1 <<< shift) ∧
      (shift = 0 ∨ 1 <<< 52 * (den * 1 <<< shift) ≤ num) := by
  rw [shiftLeft_mul_shiftLeft, shiftLeft_mul_shiftLeft]
  constructor
  · refine Nat.le_of_lt ((Nat.div_lt_iff_lt_mul hden).mp ?_)
    calc num / den < 1 <<< ((num / den).log2 + 1) := by
          rw [Nat.one_shiftLeft]
          exact Nat.lt_log2_self
      _ ≤ 1 <<< (53 + shift) := shiftLeft_mono 1 (by omega)
  · by_cases hshift : shift = 0
    · exact .inl hshift
    · right
      have hlog : (num / den).log2 = 52 + shift := by omega
      have hpos : num / den ≠ 0 := by
        intro h0
        rw [h0, Nat.log2_zero] at hlog
        omega
      rw [← hlog, Nat.one_shiftLeft]
      exact (Nat.le_div_iff_mul_le hden).mp (Nat.log2_self_le hpos)

/-- Past all magnitudes, infinity is nearest. -/
theorem gap_ceiling_le (h : ceiling * den ≤ num) (b : Option Magnitude) :
    gap num (ceiling * den) ≤ gap num (reach b * den) := by
  have hb : reach b * den ≤ ceiling * den := Nat.mul_le_mul_right den (reach_le b)
  unfold gap
  omega

/-- No magnitude lies nearer to a ratio than the one that it is rounded to, nor do the infinities.
Where another lies as near, the ratio is rounded to the even one. -/
theorem nearest?_closest (hden : 0 < den) (num : Nat) (b : Option Magnitude) :
    gap num (reach (nearest? num den) * den) ≤ gap num (reach b * den) ∧
      (gap num (reach b * den) = gap num (reach (nearest? num den) * den) →
        reach b ≠ reach (nearest? num den) → isEven (nearest? num den) = true) := by
  generalize hshift : (num / den).log2 - 52 = shift
  have hnearest : nearest? num den =
      ofRounded? (divNearestEven num (den * 1 <<< shift)) shift := by
    rw [nearest?, hshift, shiftLeft_eq_mul]
  obtain ⟨hupper, hlower⟩ := quotient_bounds hden hshift
  have hpos : 0 < den * 1 <<< shift := by
    rw [Nat.one_shiftLeft]
    exact Nat.mul_pos hden (Nat.two_pow_pos shift)
  rw [hnearest]
  -- Either the fraction lies past all magnitudes, or it is rounded to a multiple of the unit of its
  -- binade, which the others are multiples of as well, unless they are in a lower binade.
  rcases Nat.lt_or_ge 2045 shift with hlarge | hsmall
  · have hlower := hlower.resolve_left (by omega)
    have hceiling : ceiling * den ≤ num := by
      refine Nat.le_trans (Nat.mul_le_mul_right den ?_)
        (shiftLeft_mul_shiftLeft 52 den shift ▸ hlower)
      exact shiftLeft_mono 1 (by omega)
    rw [ofRounded?_of_large hlarge]
    exact ⟨gap_ceiling_le hceiling b, fun _ _ => rfl⟩
  · have hclosest := divNearestEven_closest hpos num
    have heven {k : Nat} := @divNearestEven_even num _ hpos k
    have hq := divNearestEven_between 0 (1 <<< 53) hpos (by simp) hupper
    have hnormal := hlower.imp_right fun h => (divNearestEven_between _ _ hpos h hupper).1
    obtain ⟨hreach, hparity⟩ := reach_ofRounded? hsmall hq.2 hnormal
    generalize divNearestEven num (den * 1 <<< shift) = q at *
    have hmul (k : Nat) : k * 1 <<< shift * den = k * (den * 1 <<< shift) := by
      rw [Nat.mul_assoc, Nat.mul_comm (1 <<< shift)]
    rw [hreach, shiftLeft_eq_mul, hmul]
    rcases reach_cases b hsmall with ⟨k, hk⟩ | ⟨hshift0, hk⟩
    · rw [hk, hmul]
      refine ⟨hclosest k, fun hgap hne => hparity (heven ?_ hgap)⟩
      rintro rfl
      exact hne rfl
    · have hlower := hlower.resolve_left hshift0
      have hb := Nat.mul_lt_mul_of_pos_right hk hden
      rw [hmul] at hb
      have hlow := hclosest (1 <<< 52)
      have hfurther : gap num (1 <<< 52 * (den * 1 <<< shift)) < gap num (reach b * den) := by
        unfold gap
        omega
      exact ⟨by omega, fun hgap _ => by omega⟩

end Magnitude

namespace Number

variable {n b : Number} {x : ℚ}

/-- Where a number lies, in units. The infinities lie one binade past the largest numbers. -/
def place (n : Number) : Option ℚ := n.position.map fun p => (p : ℚ) / Magnitude.unit

/-- A number to which a tie goes. -/
def isEven : Number → Bool
  | nan => false
  | infinity _ => true
  | finite _ m => m.significand % 2 == 0

/-- No number lies nearer to `x`, and one that lies as near is odd. -/
structure IsNearest (n : Number) (x : ℚ) : Prop where
  isNaN_eq_false : n.isNaN = false
  closest : ∀ {b : Number} {p q : ℚ}, n.place = some p → b.place = some q → |x - p| ≤ |x - q|
  even : ∀ {b : Number} {p q : ℚ}, n.place = some p → b.place = some q → q ≠ p →
    |x - q| = |x - p| → n.isEven = true

/-- The number of a rounded magnitude. -/
def rounded (negative : Bool) : Option Magnitude → Number
  | some m => finite negative m
  | none => infinity negative

/-- A rounded number lies where the magnitude reaches, with its sign. -/
theorem place_rounded (negative : Bool) (m : Option Magnitude) :
    (rounded negative m).place =
      some ((signed negative (Magnitude.reach m) : ℚ) / Magnitude.unit) := by
  cases m <;> rfl

theorem isEven_rounded (negative : Bool) (m : Option Magnitude) :
    (rounded negative m).isEven = Magnitude.isEven m := by
  cases m <;> rfl

theorem isNaN_eq_false_of_place {q : ℚ} (h : b.place = some q) : b.isNaN = false := by
  cases b with
  | nan => cases h
  | infinity negative => rfl
  | finite negative m => rfl

/-- Every number but NaN is a sign and a magnitude, or else infinity. -/
theorem exists_rounded (h : b.isNaN = false) : ∃ negative m, b = rounded negative m := by
  cases b with
  | nan => cases h
  | infinity negative => exact ⟨negative, none, rfl⟩
  | finite negative m => exact ⟨negative, some m, rfl⟩

/-- How far apart two counts with signs are. -/
def signedGap (s t : Bool) (a b : Nat) : Nat := if s = t then gap a b else a + b

theorem natAbs_signed_sub_signed (s t : Bool) (a b : Nat) :
    (signed s a - signed t b).natAbs = signedGap s t a b := by
  cases s <;> cases t <;> simp only [signed, signedGap, gap, if_true, if_false, reduceCtorEq] <;>
    omega

theorem abs_sub_eq_signedGap (s t : Bool) (num r : Nat) {den unit : Nat} (hden : 0 < den)
    (hunit : 0 < unit) :
    |(signed s num : ℚ) / den - (signed t r : ℚ) / unit| =
      (signedGap s t (num * unit) (r * den) : ℚ) / (den * unit) := by
  have hd : (den : ℚ) ≠ 0 := by exact_mod_cast hden.ne'
  have hu : (unit : ℚ) ≠ 0 := by exact_mod_cast hunit.ne'
  have hpos : (0 : ℚ) < den * unit := by exact_mod_cast Nat.mul_pos hden hunit
  have hsub : (signed s num : ℚ) / den - (signed t r : ℚ) / unit =
      ((signed s (num * unit) - signed t (r * den) : ℤ) : ℚ) / (den * unit) := by
    rw [signed_mul, signed_mul, div_sub_div _ _ hd hu]
    push_cast
    rw [mul_comm (den : ℚ) (signed t r : ℚ)]
  rw [hsub, abs_div, abs_of_pos hpos, ← natAbs_signed_sub_signed, Nat.cast_natAbs, Int.cast_abs]

/-- Opposite signs take numbers further apart. -/
theorem gap_le_signedGap (s t : Bool) (a b : Nat) : gap a b ≤ signedGap s t a b := by
  unfold signedGap gap
  split_ifs <;> omega

/-- Counts on both sides of zero are equally near only to zero, or if they are zero themselves. -/
theorem eq_zero_of_signedGap {s t : Bool} {a r den : Nat} (hden : 0 < den) (hst : s ≠ t)
    (hzero : gap a (r * den) ≤ a) (h : signedGap s t a (r * den) = gap a (r * den)) : r = 0 := by
  rw [signedGap, if_neg hst] at h
  have hproduct : r * den = 0 := by
    unfold gap at h hzero
    omega
  exact (Nat.mul_eq_zero.mp hproduct).resolve_right hden.ne'

/-- A ratio is rounded to the number nearest to it. -/
theorem isNearest_rounded (negative : Bool) (num : Nat) {den : Nat} (hden : 0 < den) :
    (rounded negative (Magnitude.nearest? (num * Magnitude.unit) den)).IsNearest
      (signed negative num / den) := by
  have hunit := Magnitude.unit_pos
  have hpos : (0 : ℚ) < den * Magnitude.unit := by exact_mod_cast Nat.mul_pos hden hunit
  have hclosest := Magnitude.nearest?_closest hden (num * Magnitude.unit)
  generalize Magnitude.nearest? (num * Magnitude.unit) den = n at *
  have hdistance (t : Bool) (m : Option Magnitude) :=
    abs_sub_eq_signedGap negative t num (Magnitude.reach m) hden hunit
  -- With equal signs distances are those of the magnitudes, otherwise they are no shorter.
  have hself (m : Nat) : signedGap negative negative (num * Magnitude.unit) m =
      gap (num * Magnitude.unit) m := if_pos rfl
  have hplaces {b : Number} {p q : ℚ} (hp : (rounded negative n).place = some p)
      (hq : b.place = some q) : p = signed negative (Magnitude.reach n) / Magnitude.unit ∧
        ∃ t m, q = signed t (Magnitude.reach m) / Magnitude.unit := by
    obtain ⟨t, m, rfl⟩ := exists_rounded (isNaN_eq_false_of_place hq)
    rw [place_rounded, Option.some.injEq] at hp hq
    exact ⟨hp.symm, t, m, hq.symm⟩
  refine ⟨by cases n <;> rfl, fun {b p q} hp hq => ?_, fun {b p q} hp hq hne heq => ?_⟩
  · obtain ⟨rfl, t, m, rfl⟩ := hplaces hp hq
    rw [hdistance, hdistance, hself, div_le_div_iff_of_pos_right hpos]
    exact_mod_cast Nat.le_trans (hclosest m).1 (gap_le_signedGap _ _ _ _)
  · obtain ⟨rfl, t, m, rfl⟩ := hplaces hp hq
    rw [hdistance, hdistance, hself, div_left_inj' hpos.ne', Nat.cast_inj] at heq
    have hm : gap (num * Magnitude.unit) (Magnitude.reach m * den) =
        gap (num * Magnitude.unit) (Magnitude.reach n * den) :=
      Nat.le_antisymm (heq ▸ gap_le_signedGap _ _ _ _) (hclosest m).1
    rw [isEven_rounded]
    by_cases hreach : Magnitude.reach m = Magnitude.reach n
    · -- The other number is the opposite one. It is as near only if both are zero.
      rw [hreach] at heq hne
      have ht : negative ≠ t := by
        rintro rfl
        exact hne rfl
      have hzero : gap (num * Magnitude.unit) (Magnitude.reach n * den) ≤ num * Magnitude.unit := by
        have hsteps : Magnitude.reach (some .zero) = 0 := rfl
        have hclosest0 := (hclosest (some .zero)).1
        rwa [hsteps, Nat.zero_mul, gap_zero] at hclosest0
      have hreach0 := eq_zero_of_signedGap hden ht hzero heq
      rw [hreach0] at hne
      exact (hne (by cases t <;> cases negative <;> rfl)).elim
    · exact (hclosest m).2 hm hreach

/-- Stated of the functions, so that unfolding does not go on into the rounding of a ratio. -/
theorem ofRatio_eq : ofRatio = fun negative num den =>
    rounded negative (Magnitude.nearest? (num * Magnitude.unit) den) := by
  delta ofRatio
  funext negative num den
  generalize Magnitude.nearest? (num * Magnitude.unit) den = m
  cases m <;> rfl

theorem ofRatio_eq_rounded (negative : Bool) (num den : Nat) :
    ofRatio negative num den =
      rounded negative (Magnitude.nearest? (num * Magnitude.unit) den) :=
  congrFun (congrFun (congrFun ofRatio_eq negative) num) den

/-- An integer is turned into the number nearest to it. -/
theorem isNearest_ofInt (k : Int) : (ofInt k).IsNearest k := by
  have h := isNearest_rounded (decide (k < 0)) k.natAbs Nat.one_pos
  rw [signed_natAbs, Nat.cast_one, div_one, ← ofRatio_eq_rounded] at h
  exact h

theorem isNearest_ofNat (n : Nat) : (ofNat n).IsNearest n := by
  have h := isNearest_rounded false n Nat.one_pos
  rw [Nat.cast_one, div_one, ← ofRatio_eq_rounded] at h
  exact h

end Number

namespace Decimal

def value (d : Decimal) : ℚ := d.digits * 10 ^ d.exponent

theorem value_eq (d : Decimal) : d.value = d.numerator / d.denominator := by
  have hcast (k : Nat) : ((Nat.pow 10 k : Nat) : ℚ) = 10 ^ k := by
    rw [Nat.pow_eq, Nat.cast_pow, Nat.cast_ofNat]
  rw [value, numerator, denominator, Nat.cast_mul, hcast, hcast]
  rcases Int.le_total 0 d.exponent with h | h
  · obtain ⟨k, hk⟩ := Int.eq_ofNat_of_zero_le h
    rw [hk]
    simp
  · obtain ⟨k, hk⟩ := Int.eq_ofNat_of_zero_le (Int.neg_nonneg_of_nonpos h)
    have hk : d.exponent = -(k : Int) := by omega
    rw [hk]
    simp [div_eq_mul_inv]

end Decimal

/-- The number on the line that a sign and a magnitude without one stand for. -/
def withSign (negative : Bool) (x : ℚ) : ℚ := if negative then -x else x

theorem Number.ofDecimal_eq_rounded (negative : Bool) (d : Decimal) :
    ofDecimal negative d = rounded negative d.magnitude? := by
  unfold ofDecimal
  cases d.magnitude? <;> rfl

/-- A decimal is read as the number nearest to its value. -/
theorem Number.isNearest_ofDecimal (negative : Bool) (d : Decimal) :
    (ofDecimal negative d).IsNearest (withSign negative d.value) := by
  have h := isNearest_rounded negative d.numerator d.denominator_pos
  have hvalue : (signed negative d.numerator : ℚ) / d.denominator = withSign negative d.value := by
    rw [d.value_eq]
    cases negative <;> simp [signed, withSign, neg_div]
  rw [hvalue, ← d.magnitude?_eq_nearest?, ← ofDecimal_eq_rounded] at h
  exact h

end Conform
