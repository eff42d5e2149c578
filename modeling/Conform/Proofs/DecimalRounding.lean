import Conform.Proofs.Integers

/-! Decimals and the magnitudes that they are rounded to. A decimal rounds by its value alone,
whatever is decided early by its exponent, and the shortest decimal of a magnitude rounds back
to it. -/

namespace Conform

variable {num den : Nat}

/-- A quotient is rounded by its value, whatever the terms of the fraction. -/
theorem divNearestEven_mul {c : Nat} (hc : 0 < c) (num den : Nat) :
    divNearestEven (num * c) (den * c) = divNearestEven num den := by
  have hlt (a b : Nat) : a * c < b * c ↔ a < b := Nat.mul_lt_mul_right hc
  simp only [divNearestEven, Nat.mul_div_mul_right _ _ hc, Nat.mul_mod_mul_right, ← Nat.mul_assoc,
    hlt]

theorem divNearestEven_mul_self (k : Nat) (hden : 0 < den) : divNearestEven (k * den) den = k := by
  simp [divNearestEven, Nat.mul_div_cancel _ hden, hden]

theorem divNearestEven_of_small (h : 2 * num < den) : divNearestEven num den = 0 := by
  have hlt : num < den := by omega
  rw [divNearestEven, Nat.mod_eq_of_lt hlt, if_pos h, Nat.div_eq_of_lt hlt]

namespace Magnitude

theorem ofRounded?_self (m : Magnitude) : ofRounded? m.significand m.shift = some m :=
  dif_pos ⟨m.significand_lt, m.shift_le, m.normal⟩

theorem nearest?_mul {c : Nat} (hc : 0 < c) (num den : Nat) :
    nearest? (num * c) (den * c) = nearest? num den := by
  have hshift (s : Nat) : (den * c) <<< s = den <<< s * c := by
    rw [Nat.shiftLeft_eq, Nat.shiftLeft_eq, Nat.mul_right_comm]
  simp only [nearest?, Nat.mul_div_mul_right _ _ hc, hshift, divNearestEven_mul hc]

/-- Less than half of the least magnitude is rounded to nothing. -/
theorem nearest?_of_small (h : 2 * num < den) : nearest? num den = some zero := by
  have hlog : (num / den).log2 - 52 = 0 := by
    rw [Nat.div_eq_of_lt (by omega)]
    rfl
  rw [nearest?, hlog, Nat.shiftLeft_zero, divNearestEven_of_small h]
  exact ofRounded?_self zero

/-- A ratio this large needs a greater shift than there is. -/
theorem nearest?_of_large {k : Nat} (hk : 2098 ≤ k) (hden : 0 < den) (h : den <<< k ≤ num) :
    nearest? num den = none := by
  rw [Nat.shiftLeft_eq, Nat.mul_comm] at h
  have hquotient := (Nat.le_div_iff_mul_le hden).mpr h
  have hpos : num / den ≠ 0 := Nat.ne_of_gt (Nat.lt_of_lt_of_le (Nat.two_pow_pos k) hquotient)
  have hlog : k ≤ (num / den).log2 := (Nat.le_log2 hpos).mpr hquotient
  rw [nearest?, ofRounded?, dif_neg (by omega), dif_neg (by omega)]

/-- The exponent is kept behind a name, where it is not evaluated. -/
theorem exists_unit_eq : ∃ k, k = 1074 ∧ unit = 1 <<< k := ⟨1074, rfl, rfl⟩

/-- The shift of a magnitude can be told from the number of steps that it is away from zero. -/
theorem log2_steps (m : Magnitude) : m.steps.log2 - 52 = m.shift := by
  rcases m.normal with hshift | hnormal
  · have hlt : m.steps < 2 ^ 53 := by
      have := m.significand_lt
      rwa [steps, hshift, Nat.shiftLeft_zero, ← Nat.one_shiftLeft]
    by_cases h0 : m.steps = 0
    · rw [h0, hshift]
      rfl
    · have := (Nat.log2_lt h0).mpr hlt
      omega
  · have hsteps : m.steps = m.significand * 2 ^ m.shift := Nat.shiftLeft_eq _ _
    have hlower : 2 ^ (52 + m.shift) ≤ m.steps := by
      rw [hsteps, Nat.pow_add, ← Nat.one_shiftLeft 52]
      exact Nat.mul_le_mul_right _ hnormal
    have hupper : m.steps < 2 ^ (53 + m.shift) := by
      rw [hsteps, Nat.pow_add, ← Nat.one_shiftLeft 53]
      exact Nat.mul_lt_mul_of_pos_right m.significand_lt (Nat.two_pow_pos _)
    have h0 : m.steps ≠ 0 := Nat.ne_of_gt (Nat.lt_of_lt_of_le (Nat.two_pow_pos _) hlower)
    have := (Nat.le_log2 h0).mpr hlower
    have := (Nat.log2_lt h0).mpr hupper
    omega

/-- A magnitude is the nearest to itself. -/
theorem nearest?_steps (m : Magnitude) : nearest? m.steps 1 = some m := by
  have hpos : 0 < 1 <<< m.shift := by
    rw [Nat.one_shiftLeft]
    exact Nat.two_pow_pos _
  have hsteps : m.steps = m.significand * 1 <<< m.shift := shiftLeft_eq_mul _ _
  rw [nearest?, Nat.div_one, log2_steps, hsteps, divNearestEven_mul_self _ hpos]
  exact ofRounded?_self m

end Magnitude

namespace Decimal

theorem denominator_pos (d : Decimal) : 0 < d.denominator := Nat.pow_pos (by decide)

theorem one_shiftLeft_le_ten_pow (k : Nat) : 1 <<< (3 * k) ≤ Nat.pow 10 k := by
  rw [Nat.one_shiftLeft, Nat.pow_mul]
  exact Nat.pow_le_pow_left (by decide) k

/-- A decimal that vanishes is less than half a step. -/
theorem nearest?_of_vanishes {d : Decimal} (h : d.vanishes = true) :
    Magnitude.nearest? (d.numerator * Magnitude.unit) d.denominator = some .zero := by
  have hexponent : d.exponent < -(400 + d.digits.log2 + 1) := of_decide_eq_true h
  have hnumerator : d.numerator = d.digits := by
    rw [numerator, show d.exponent.toNat = 0 by omega, Nat.pow_eq, Nat.pow_zero, Nat.mul_one]
  obtain ⟨k, hk, hunit⟩ := Magnitude.exists_unit_eq
  refine Magnitude.nearest?_of_small ?_
  rw [hnumerator, hunit, Nat.one_shiftLeft]
  calc 2 * (d.digits * 2 ^ k)
      < 2 * (2 ^ (d.digits.log2 + 1) * 2 ^ k) :=
        Nat.mul_lt_mul_of_pos_left
          (Nat.mul_lt_mul_of_pos_right Nat.lt_log2_self (Nat.two_pow_pos k)) (by decide)
    _ = 2 ^ (d.digits.log2 + 1 + k + 1) := by
        rw [← Nat.pow_add, Nat.pow_succ, Nat.mul_comm]
    _ ≤ 2 ^ (3 * (-d.exponent).toNat) := Nat.pow_le_pow_right (by decide) (by omega)
    _ = 1 <<< (3 * (-d.exponent).toNat) := (Nat.one_shiftLeft _).symm
    _ ≤ d.denominator := one_shiftLeft_le_ten_pow _

/-- A decimal past the limit is past the largest magnitude. -/
theorem nearest?_of_exponentLimit {d : Decimal} (h0 : d.digits ≠ 0)
    (h : exponentLimit < d.exponent) :
    Magnitude.nearest? (d.numerator * Magnitude.unit) d.denominator = none := by
  have hexponent : 400 < d.exponent := h
  have hdenominator : d.denominator = 1 := by
    rw [denominator, show (-d.exponent).toNat = 0 by omega, Nat.pow_eq, Nat.pow_zero]
  obtain ⟨k, hk, hunit⟩ := Magnitude.exists_unit_eq
  refine Magnitude.nearest?_of_large (k := 3 * d.exponent.toNat + k) (by omega)
    d.denominator_pos ?_
  rw [hdenominator, hunit, Nat.shiftLeft_add, Nat.shiftLeft_eq, Nat.one_shiftLeft k]
  refine Nat.mul_le_mul_right _ ?_
  calc 1 <<< (3 * d.exponent.toNat) ≤ Nat.pow 10 d.exponent.toNat := one_shiftLeft_le_ten_pow _
    _ ≤ d.numerator := Nat.le_mul_of_pos_left _ (Nat.pos_of_ne_zero h0)

/-- Nothing that is decided early, by the exponent alone, differs from rounding. -/
theorem magnitude?_eq_nearest? (d : Decimal) :
    d.magnitude? = Magnitude.nearest? (d.numerator * Magnitude.unit) d.denominator := by
  -- What is decided early is decided as rounding would.
  unfold magnitude?
  split
  next hzero =>
    rcases hzero with h0 | hvanishes
    · refine (Magnitude.nearest?_of_small ?_).symm
      rw [numerator, h0, Nat.zero_mul, Nat.zero_mul]
      exact d.denominator_pos
    · exact (nearest?_of_vanishes hvanishes).symm
  next hzero =>
    obtain ⟨h0, -⟩ := not_or.mp hzero
    split
    next hlimit => exact (nearest?_of_exponentLimit h0 hlimit).symm
    next => rfl

/-- Decimals of one value are rounded to one magnitude. -/
theorem magnitude?_congr {d e : Decimal}
    (h : d.numerator * e.denominator = e.numerator * d.denominator) :
    d.magnitude? = e.magnitude? := by
  rw [magnitude?_eq_nearest?, magnitude?_eq_nearest?, ← Magnitude.nearest?_mul e.denominator_pos,
    ← Magnitude.nearest?_mul d.denominator_pos (e.numerator * _), Nat.mul_right_comm, h,
    Nat.mul_right_comm e.numerator, Nat.mul_comm d.denominator]

/-- Zeros at the end of the digits instead of an exponent. -/
theorem magnitude?_shift (digits k : Nat) :
    magnitude? ⟨digits * Nat.pow 10 k, 0⟩ = magnitude? ⟨digits, k⟩ :=
  magnitude?_congr (by simp [numerator, denominator])

end Decimal

namespace Magnitude

/-- The decimal with all digits of a magnitude is read as the magnitude. -/
theorem magnitude?_exactDecimal (m : Magnitude) : m.exactDecimal.magnitude? = some m := by
  obtain ⟨k, hk, hunit⟩ := exists_unit_eq
  have hnumerator : m.exactDecimal.numerator * unit = m.steps * Nat.pow 10 k := by
    change m.steps * Nat.pow 5 1074 * 1 * unit = _
    rw [hunit, ← hk, Nat.mul_one, Nat.mul_assoc, Nat.pow_eq, Nat.one_shiftLeft, ← Nat.mul_pow,
      Nat.pow_eq]
  have hdenominator : m.exactDecimal.denominator = 1 * Nat.pow 10 k := by
    rw [Nat.one_mul, hk]
    rfl
  have hpos : 0 < Nat.pow 10 k := Nat.pow_pos (by decide)
  rw [Decimal.magnitude?_eq_nearest?, hnumerator, hdenominator,
    nearest?_mul hpos, nearest?_steps]

theorem magnitude?_of_onGrid? {m : Magnitude} {tie : Tie} {exponent : Int} {d : Decimal}
    (h : m.onGrid? tie exponent = some d) : d.magnitude? = some m := by
  have hread {e : Decimal} (he : m.readsBack e = true) : e.magnitude? = some m := eq_of_beq he
  simp only [onGrid?] at h
  split at h
  next =>
    split at h
    next hlower => cases h; exact hread hlower
    next => cases h
  next hupper =>
    have hupper := hread (by simpa using hupper)
    split at h
    next => cases h; exact hupper
    next hlower =>
      have hlower := hread (by simpa using hlower)
      split at h
      next => cases h; exact hupper
      next => cases h; exact hlower

/-- The shortest decimal of a magnitude is read as it, whichever way a tie is decided. -/
theorem magnitude?_shortest (m : Magnitude) (tie : Tie) : (m.shortest tie).magnitude? = some m := by
  rw [shortest]
  split
  next h0 => rw [steps_injective (a := m) (b := zero) h0]; rfl
  next =>
    generalize hgrid : ((List.range 24).map fun (i : Nat) => m.decimalCeiling - i) = grids
    cases hfound : grids.findSome? (m.onGrid? tie) with
    | none => simpa [hfound] using m.magnitude?_exactDecimal
    | some d =>
      obtain ⟨exponent, -, hd⟩ := List.exists_of_findSome?_eq_some hfound
      simpa [hfound] using magnitude?_of_onGrid? hd

end Magnitude

end Conform
