import Conform.Number.Text

/-! Numbers at one place on the line. A place has one number on it, save that both zeros lie at
zero; no question that is asked of a number tells these apart. -/

namespace Conform

namespace Magnitude

theorem shiftLeft_mono {s t : Nat} (n : Nat) (h : s ≤ t) : n <<< s ≤ n <<< t := by
  rw [Nat.shiftLeft_eq, Nat.shiftLeft_eq]
  exact Nat.mul_le_mul_left n (Nat.pow_le_pow_right (by decide) h)

theorem steps_lt_shiftLeft (m : Magnitude) : m.steps < (1 <<< 53) <<< m.shift := by
  rw [steps, Nat.shiftLeft_eq, Nat.shiftLeft_eq (1 <<< 53)]
  exact Nat.mul_lt_mul_of_pos_right m.significand_lt (Nat.two_pow_pos _)

/-- A magnitude with a greater shift has its leading bit further up. -/
theorem steps_lt_of_shift_lt {a b : Magnitude} (h : a.shift < b.shift) : a.steps < b.steps := by
  have hnormal : 1 <<< 52 ≤ b.significand := b.normal.resolve_left (by omega)
  calc a.steps < (1 <<< 53) <<< a.shift := a.steps_lt_shiftLeft
    _ = 1 <<< (53 + a.shift) := (Nat.shiftLeft_add 1 53 a.shift).symm
    _ ≤ 1 <<< (52 + b.shift) := shiftLeft_mono 1 (by omega)
    _ = (1 <<< 52) <<< b.shift := Nat.shiftLeft_add 1 52 b.shift
    _ ≤ b.steps := by
      rw [steps, Nat.shiftLeft_eq, Nat.shiftLeft_eq b.significand]
      exact Nat.mul_le_mul_right _ hnormal

/-- Different magnitudes are different numbers of steps away from zero. -/
theorem steps_injective {a b : Magnitude} (h : a.steps = b.steps) : a = b := by
  have hshift : a.shift = b.shift := by
    rcases Nat.lt_trichotomy a.shift b.shift with hlt | heq | hlt
    · have := steps_lt_of_shift_lt hlt
      omega
    · exact heq
    · have := steps_lt_of_shift_lt hlt
      omega
  have hsignificand : a.significand = b.significand := by
    rw [steps, steps, hshift, Nat.shiftLeft_eq, Nat.shiftLeft_eq] at h
    exact Nat.eq_of_mul_eq_mul_right (Nat.two_pow_pos _) h
  cases a
  cases b
  simp_all

/-- The infinities lie past every magnitude. -/
theorem steps_lt (m : Magnitude) : m.steps < 1 <<< 2098 :=
  calc m.steps < (1 <<< 53) <<< m.shift := m.steps_lt_shiftLeft
    _ ≤ (1 <<< 53) <<< 2045 := shiftLeft_mono _ m.shift_le
    _ = 1 <<< 2098 := (Nat.shiftLeft_add 1 53 2045).symm

end Magnitude

namespace Number

variable {a b : Number}

theorem natAbs_signed (negative : Bool) (n : Nat) : (signed negative n).natAbs = n := by
  cases negative <;> simp [signed]

theorem signed_injective {s t : Bool} {m n : Nat} (hm : m ≠ 0) (h : signed s m = signed t n) :
    s = t ∧ m = n := by
  have hmn : m = n := by
    rw [← natAbs_signed s m, h, natAbs_signed]
  subst hmn
  cases s <;> cases t <;> simp [signed] at h ⊢ <;> omega

/-- Both zeros are zero. -/
theorem isZero_finite (negative : Bool) {m : Magnitude} :
    (finite negative m).isZero = true ↔ m.steps = 0 := by
  cases negative <;> simp [isZero, position, signed]

/-- A place has one number on it, or else both zeros. -/
theorem eq_or_isZero_of_position (h : a.position = b.position) :
    a = b ∨ a.isZero = true ∧ b.isZero = true := by
  cases a with
  | nan =>
    cases b with
    | nan => exact .inl rfl
    | infinity _ => cases h
    | finite _ _ => cases h
  | infinity s =>
    cases b with
    | nan => cases h
    | infinity t =>
      obtain ⟨rfl, -⟩ := signed_injective (by simp) (Option.some.inj h)
      exact .inl rfl
    | finite t n =>
      obtain ⟨-, hn⟩ := signed_injective (by simp) (Option.some.inj h)
      have := n.steps_lt
      omega
  | finite s m =>
    by_cases hm : m.steps = 0
    · have ha : (finite s m).isZero = true := (isZero_finite s).mpr hm
      refine .inr ⟨ha, ?_⟩
      rwa [isZero, ← h]
    · cases b with
      | nan => cases h
      | infinity t =>
        obtain ⟨-, hn⟩ := signed_injective hm (Option.some.inj h)
        have := m.steps_lt
        omega
      | finite t n =>
        obtain ⟨rfl, hn⟩ := signed_injective hm (Option.some.inj h)
        exact .inl (congrArg (finite s) (Magnitude.steps_injective hn))

/-- Numbers are compared by their places. -/
theorem lt_iff : a.lt b = true ↔ ∃ x y, a.position = some x ∧ b.position = some y ∧ x < y := by
  unfold lt
  cases a.position <;> cases b.position <;> simp

theorem lt_trans {c : Number} (hab : a.lt b = true) (hbc : b.lt c = true) : a.lt c = true := by
  obtain ⟨x, y, hx, hy, hxy⟩ := lt_iff.mp hab
  obtain ⟨y', z, hy', hz, hyz⟩ := lt_iff.mp hbc
  obtain rfl := Option.some.inj (hy.symm.trans hy')
  exact lt_iff.mpr ⟨x, z, hx, hz, Int.lt_trans hxy hyz⟩

/-- Nothing is less than NaN, nor greater. -/
theorem isNaN_of_lt (h : a.lt b = true) : a.isNaN = false ∧ b.isNaN = false := by
  obtain ⟨x, y, hx, hy, -⟩ := lt_iff.mp h
  simp [isNaN, hx, hy]

theorem position_eq_of_equals (h : a.equals b = true) : a.position = b.position := by
  unfold equals at h
  cases ha : a.position with
  | none => simp [ha] at h
  | some x =>
    cases hb : b.position with
    | none => simp [ha, hb] at h
    | some y => simpa [ha, hb] using h

/-- Numbers lie at one place if they are equal or if neither is a number. -/
theorem position_eq_iff :
    a.position = b.position ↔ a.equals b = true ∨ a.isNaN = true ∧ b.isNaN = true := by
  unfold equals isNaN
  cases a.position <;> cases b.position <;> simp

theorem text_of_isZero (h : a.isZero = true) : a.text = "0" := by
  cases a with
  | nan => cases h
  | infinity s => cases s <;> simp [isZero, position, signed] at h
  | finite s m => exact if_pos ((isZero_finite s).mp h)

/-- Numbers at one place are written alike. -/
theorem text_eq_of_position (h : a.position = b.position) : a.text = b.text := by
  rcases eq_or_isZero_of_position h with rfl | ⟨ha, hb⟩
  · rfl
  · rw [text_of_isZero ha, text_of_isZero hb]

theorem isIntegral_of_isZero (h : a.isZero = true) : a.isIntegral = true := by
  cases a with
  | nan => cases h
  | infinity s => cases s <;> simp [isZero, position, signed] at h
  | finite s m => simp [isIntegral, (isZero_finite s).mp h]

/-- Numbers at one place are integers together. -/
theorem isIntegral_eq_of_position (h : a.position = b.position) : a.isIntegral = b.isIntegral := by
  rcases eq_or_isZero_of_position h with rfl | ⟨ha, hb⟩
  · rfl
  · rw [isIntegral_of_isZero ha, isIntegral_of_isZero hb]

end Number

end Conform
