import Conform.Proofs.Position

/-! Integers on the line of numbers: which numbers lie at one, and that between bounds which leave
room for an integer there is a number that is one. -/

namespace Conform

namespace Magnitude

theorem shiftLeft_eq_mul (n s : Nat) : n <<< s = n * 1 <<< s := by
  rw [Nat.shiftLeft_eq, Nat.shiftLeft_eq, Nat.one_mul]

theorem unit_pos : 0 < unit := by
  rw [unit, Nat.one_shiftLeft]
  exact Nat.two_pow_pos 1074

/-- The leading bit of an integer goes to the top of the significand. -/
theorem normal_shiftLeft {k : Nat} (hk : k ≠ 0) (hlog : k.log2 ≤ 52) :
    1 <<< 52 ≤ k <<< (52 - k.log2) ∧ k <<< (52 - k.log2) < 1 <<< 53 := by
  have hlower : 1 <<< k.log2 ≤ k := by
    rw [Nat.one_shiftLeft]
    exact Nat.log2_self_le hk
  have hupper : k < 1 <<< (k.log2 + 1) := by
    rw [Nat.one_shiftLeft]
    exact Nat.lt_log2_self
  constructor
  · calc 1 <<< 52 = (1 <<< k.log2) <<< (52 - k.log2) := by
          rw [← Nat.shiftLeft_add, Nat.add_sub_cancel' hlog]
      _ ≤ k <<< (52 - k.log2) := by
          rw [Nat.shiftLeft_eq (1 <<< k.log2), Nat.shiftLeft_eq k]
          exact Nat.mul_le_mul_right _ hlower
  · calc k <<< (52 - k.log2) < (1 <<< (k.log2 + 1)) <<< (52 - k.log2) := by
          rw [Nat.shiftLeft_eq k, Nat.shiftLeft_eq (1 <<< (k.log2 + 1))]
          exact Nat.mul_lt_mul_of_pos_right hupper (Nat.two_pow_pos _)
      _ = 1 <<< 53 := by
          rw [← Nat.shiftLeft_add, show k.log2 + 1 + (52 - k.log2) = 53 by omega]

/-- An integer of at most 53 bits is a magnitude. -/
theorem exists_steps_eq_mul_unit {k : Nat} (h : k < 1 <<< 53) :
    ∃ m : Magnitude, m.steps = k * unit := by
  by_cases hk : k = 0
  · subst hk
    exact ⟨zero, by simp [steps, zero]⟩
  · have hlog : k.log2 ≤ 52 := by
      have := (Nat.log2_lt hk).mpr (Nat.one_shiftLeft 53 ▸ h)
      omega
    obtain ⟨hnormal, hlt⟩ := normal_shiftLeft hk hlog
    refine ⟨⟨k <<< (52 - k.log2), 1022 + k.log2, hlt, by omega, .inr hnormal⟩, ?_⟩
    rw [steps, ← Nat.shiftLeft_add, show 52 - k.log2 + (1022 + k.log2) = 1074 by omega]
    exact shiftLeft_eq_mul k 1074

/-- The least integer that is not below a magnitude is a magnitude. -/
theorem exists_least_integer (m : Magnitude) :
    ∃ (k : Nat) (n : Magnitude), n.steps = k * unit ∧ ∀ j, m.steps ≤ j * unit ↔ k ≤ j := by
  rcases Nat.lt_or_ge m.shift 1074 with hshift | hshift
  · have hleast (j : Nat) : m.steps ≤ j * unit ↔ (m.steps + (unit - 1)) / unit ≤ j := by
      rw [Nat.div_le_iff_le_mul_add_pred unit_pos, Nat.mul_comm unit j]
      omega
    have hsmall : m.steps ≤ 1 <<< 52 * unit :=
      calc m.steps ≤ (1 <<< 53) <<< m.shift := Nat.le_of_lt m.steps_lt_shiftLeft
        _ ≤ (1 <<< 53) <<< 1073 := shiftLeft_mono _ (by omega)
        _ = (1 <<< 52) <<< 1074 := by rw [← Nat.shiftLeft_add, ← Nat.shiftLeft_add]
        _ = 1 <<< 52 * unit := shiftLeft_eq_mul _ 1074
    have hk : (m.steps + (unit - 1)) / unit < 1 <<< 53 :=
      Nat.lt_of_le_of_lt ((hleast _).mp hsmall) (by decide)
    obtain ⟨n, hn⟩ := exists_steps_eq_mul_unit hk
    exact ⟨_, n, hn, hleast⟩
  · -- A magnitude with so great a shift is an integer itself.
    have hsteps : m.steps = m.significand <<< (m.shift - 1074) * unit := by
      rw [unit, ← shiftLeft_eq_mul, ← Nat.shiftLeft_add, Nat.sub_add_cancel hshift, steps]
    refine ⟨_, m, hsteps, fun j => ?_⟩
    rw [hsteps]
    exact Nat.mul_le_mul_right_iff unit_pos

end Magnitude

namespace Number

variable {n a : Number} {k j : Int}

/-- The number is finite and lies at the integer `k`. -/
def IsInteger (n : Number) (k : Int) : Prop :=
  ∃ negative m, n = finite negative m ∧ signed negative m.steps = k * Magnitude.unit

/-- The number is not greater than the integer `k`. -/
def AtOrBelow (k : Int) : Number → Prop
  | nan => False
  | infinity negative => negative = true
  | finite negative m => signed negative m.steps ≤ k * Magnitude.unit

/-- The number is not less than the integer `k`. -/
def AtOrAbove (k : Int) : Number → Prop
  | nan => False
  | infinity negative => negative = false
  | finite negative m => k * Magnitude.unit ≤ signed negative m.steps

theorem signed_mul (negative : Bool) (k s : Nat) :
    signed negative (k * s) = signed negative k * s := by
  cases negative with
  | false => exact Int.natCast_mul k s
  | true => exact (congrArg (- ·) (Int.natCast_mul k s)).trans (Int.neg_mul _ _).symm

theorem isInteger_of_steps (negative : Bool) {k : Nat} {m : Magnitude}
    (h : m.steps = k * Magnitude.unit) : (finite negative m).IsInteger (signed negative k) :=
  ⟨negative, m, rfl, by rw [h, signed_mul]⟩

/-- The test for integers passes just the numbers that lie at one. -/
theorem isIntegral_iff : n.isIntegral = true ↔ ∃ k, n.IsInteger k := by
  constructor
  · intro h
    cases n with
    | nan => cases h
    | infinity negative => cases h
    | finite negative m =>
      have hdvd : Magnitude.unit ∣ m.steps := Nat.dvd_of_mod_eq_zero (eq_of_beq h)
      obtain ⟨k, hk⟩ := hdvd
      exact ⟨_, isInteger_of_steps negative (hk.trans (Nat.mul_comm _ _))⟩
  · rintro ⟨k, negative, m, rfl, hk⟩
    have hsteps : m.steps = k.natAbs * Magnitude.unit := by
      rw [← natAbs_signed negative m.steps, hk, Int.natAbs_mul, Int.natAbs_natCast]
    simp [isIntegral, hsteps]

theorem IsInteger.isNaN_eq_false (h : n.IsInteger k) : n.isNaN = false := by
  obtain ⟨negative, m, rfl, -⟩ := h
  rfl

theorem mul_unit_le (h : k ≤ j) : k * Magnitude.unit ≤ j * Magnitude.unit :=
  Int.mul_le_mul_of_nonneg_right h (Int.natCast_nonneg _)

theorem AtOrBelow.mono (h : a.AtOrBelow k) (hkj : k ≤ j) : a.AtOrBelow j := by
  cases a with
  | nan => exact h
  | infinity negative => exact h
  | finite negative m => exact Int.le_trans h (mul_unit_le hkj)

theorem AtOrAbove.mono (h : a.AtOrAbove k) (hjk : j ≤ k) : a.AtOrAbove j := by
  cases a with
  | nan => exact h
  | infinity negative => exact h
  | finite negative m => exact Int.le_trans (mul_unit_le hjk) h

theorem IsInteger.atOrBelow_iff (hn : n.IsInteger k) :
    a.AtOrBelow k ↔ a.isNaN = false ∧ n.lt a = false := by
  obtain ⟨negative, m, rfl, hk⟩ := hn
  cases a with
  | nan => simp [AtOrBelow, isNaN, position]
  | infinity s =>
    have := m.steps_lt
    cases negative <;> cases s <;> simp [lt, isNaN, position, signed, AtOrBelow] <;> omega
  | finite s m' => simp [lt, isNaN, position, AtOrBelow, hk]

theorem IsInteger.atOrAbove_iff (hn : n.IsInteger k) :
    a.AtOrAbove k ↔ a.isNaN = false ∧ a.lt n = false := by
  obtain ⟨negative, m, rfl, hk⟩ := hn
  cases a with
  | nan => simp [AtOrAbove, isNaN, position]
  | infinity s =>
    have := m.steps_lt
    cases negative <;> cases s <;> simp [lt, isNaN, position, signed, AtOrAbove] <;> omega
  | finite s m' => simp [lt, isNaN, position, AtOrAbove, hk]

/-- Numbers at integers are compared as the integers are. -/
theorem IsInteger.lt_iff (ha : a.IsInteger j) (hn : n.IsInteger k) : a.lt n = true ↔ j < k := by
  have hunit : (0 : Int) < Magnitude.unit := Int.natCast_pos.mpr Magnitude.unit_pos
  obtain ⟨s, l, rfl, hl⟩ := ha
  obtain ⟨t, m, rfl, hm⟩ := hn
  simp only [lt, position, hl, hm, decide_eq_true_eq]
  exact Int.mul_lt_mul_right hunit

/-- The number on the other side of zero. -/
def opposite : Number → Number
  | nan => nan
  | infinity negative => infinity (!negative)
  | finite negative m => finite (!negative) m

theorem signed_not (negative : Bool) (n : Nat) : signed (!negative) n = -signed negative n := by
  cases negative <;> simp [signed]

/-- The opposite of a number at an integer lies at the opposite integer. -/
theorem IsInteger.opposite (h : n.IsInteger k) : n.opposite.IsInteger (-k) := by
  obtain ⟨negative, m, rfl, hk⟩ := h
  exact ⟨!negative, m, rfl, by rw [signed_not, hk, Int.neg_mul]⟩

/-- Taking opposites turns lower bounds into upper bounds. -/
theorem atOrBelow_opposite : a.opposite.AtOrBelow (-k) ↔ a.AtOrAbove k := by
  cases a with
  | nan => exact Iff.rfl
  | infinity negative => cases negative <;> simp [opposite, AtOrBelow, AtOrAbove]
  | finite negative m =>
    simp only [opposite, AtOrBelow, AtOrAbove, signed_not, Int.neg_mul]
    exact Int.neg_le_neg_iff

/-- If there is an integer above a positive number, the least one is a number. -/
theorem AtOrBelow.exists_isInteger (h : a.AtOrBelow k) (h0 : ¬ a.AtOrBelow 0) :
    ∃ (n : Number) (j : Int), n.IsInteger j ∧ a.AtOrBelow j ∧ j ≤ k := by
  cases a with
  | nan => exact h.elim
  | infinity negative => exact (h0 h).elim
  | finite negative m =>
    cases negative with
    | true => exact (h0 (by simp [AtOrBelow, signed])).elim
    | false =>
      obtain ⟨j, n, hn, hleast⟩ := m.exists_least_integer
      have hk : 0 ≤ k := Int.not_lt.mp fun hneg => h0 (h.mono (Int.le_of_lt hneg))
      have hj : m.steps ≤ j * Magnitude.unit := (hleast j).mpr (Nat.le_refl j)
      have hkm : m.steps ≤ k.toNat * Magnitude.unit := by
        have hsigned : (m.steps : Int) ≤ k * Magnitude.unit := h
        rw [← Int.toNat_of_nonneg hk] at hsigned
        exact_mod_cast hsigned
      have hjk : j ≤ k.toNat := (hleast _).mp hkm
      exact ⟨finite false n, j, isInteger_of_steps false hn, Int.ofNat_le.mpr hj, by omega⟩

/-- If there is an integer below a negative number, the greatest one is a number. -/
theorem AtOrAbove.exists_isInteger (h : a.AtOrAbove k) (h0 : ¬ a.AtOrAbove 0) :
    ∃ (n : Number) (j : Int), n.IsInteger j ∧ a.AtOrAbove j ∧ k ≤ j := by
  obtain ⟨n, j, hn, hj, hjk⟩ := AtOrBelow.exists_isInteger (atOrBelow_opposite.mpr h)
    (fun hbelow => h0 (atOrBelow_opposite.mp hbelow))
  rw [← Int.neg_neg j] at hj
  exact ⟨n.opposite, -j, hn.opposite, atOrBelow_opposite.mp hj, by omega⟩

/-- Bounds that leave room for an integer leave room for one that is a number: for zero, or else for
the integer next to the bound that is nearer to zero. -/
theorem exists_isInteger_between {lower upper : Option Number}
    (hlower : ∀ a ∈ lower, a.AtOrBelow k) (hupper : ∀ b ∈ upper, b.AtOrAbove k) :
    ∃ (n : Number) (j : Int), n.IsInteger j ∧
      (∀ a ∈ lower, a.AtOrBelow j) ∧ ∀ b ∈ upper, b.AtOrAbove j := by
  -- Zero lies between the bounds unless one of them excludes it. Then the integer next to that
  -- bound is taken, which need not be `k`: far from zero not every integer is a number.
  by_cases hpositive : ∃ a ∈ lower, ¬ a.AtOrBelow 0
  · obtain ⟨a, ha, h0⟩ := hpositive
    obtain ⟨n, j, hn, hj, hjk⟩ := (hlower a ha).exists_isInteger h0
    refine ⟨n, j, hn, fun b hb => ?_, fun b hb => (hupper b hb).mono hjk⟩
    rwa [Option.some.inj (hb.symm.trans ha)]
  · by_cases hnegative : ∃ b ∈ upper, ¬ b.AtOrAbove 0
    · obtain ⟨b, hb, h0⟩ := hnegative
      obtain ⟨n, j, hn, hj, hkj⟩ := (hupper b hb).exists_isInteger h0
      refine ⟨n, j, hn, fun a ha => (hlower a ha).mono hkj, fun a ha => ?_⟩
      rwa [Option.some.inj (ha.symm.trans hb)]
    · have hlower0 : ∀ a ∈ lower, a.AtOrBelow 0 := by simpa using hpositive
      have hupper0 : ∀ b ∈ upper, b.AtOrAbove 0 := by simpa using hnegative
      exact ⟨finite false .zero, 0, ⟨false, .zero, rfl, rfl⟩, hlower0, hupper0⟩

end Number

end Conform
