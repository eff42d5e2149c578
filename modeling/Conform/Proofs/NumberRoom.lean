import Conform.Proofs.NumberBounds

/-! Whether what is built from bounds on a number passes any. It does unless an integer is asked for
and there is none between the bounds: such options are not refused. -/

namespace Conform

theorem Number.isInteger_zero : (Number.finite false .zero).IsInteger 0 :=
  isInteger_of_steps false (k := 0) (by decide)

theorem Number.isInteger_one : (Number.ofNat 1).IsInteger 1 := by
  have h : Number.ofNat 1 = .finite false ⟨1 <<< 52, 1022, by decide, by decide, by decide⟩ := by
    decide +kernel
  rw [h]
  exact isInteger_of_steps false (k := 1) (by decide +kernel)

theorem Number.lt_self (n : Number) : n.lt n = false := by
  cases h : n.position <;> simp [lt, h]

namespace NumberOptions

/-- The bounds leave room for an integer, if one is asked for. -/
def HasRoom (o : NumberOptions) : Prop :=
  o.integer = true → ∃ k : Int, (∀ a ∈ o.min, a.AtOrBelow k) ∧ ∀ b ∈ o.max, b.AtOrAbove k

/-- Some number passes, unless there is no room for one: then nothing does. -/
structure PassesIfRoom (o : NumberOptions) (passes : Value → Prop) : Prop where
  some_number : o.HasRoom → ∃ n, n.isNaN = false ∧ passes (.number n)
  no_value : ¬ o.HasRoom → ∀ v, ¬ passes v

variable {o : NumberOptions} {n : Number}

/-- Options that admit a number have room for it. -/
theorem Ordered.hasRoom_of_admits (h : o.Ordered) (hn : o.Admits n) : o.HasRoom := by
  intro hinteger
  obtain ⟨k, hk⟩ := Number.isIntegral_iff.mp (hn.integral hinteger)
  exact ⟨k, fun a ha => hk.atOrBelow_iff.mpr ⟨h.min a ha, hn.above a ha⟩,
    fun b hb => hk.atOrAbove_iff.mpr ⟨h.max b hb, hn.below b hb⟩⟩

/-- Where fractions are admitted, the bounds themselves are, and zero if there are none. -/
theorem Ordered.exists_admits_of_fraction (h : o.Ordered) (hinteger : o.integer = false) :
    ∃ n, n.isNaN = false ∧ o.Admits n := by
  have hintegral (n : Number) : o.integer = true → n.isIntegral = true := by simp [hinteger]
  cases hmin : o.min with
  | some a =>
    refine ⟨a, h.min a hmin, hintegral a, fun c hc => ?_, h.order a hmin⟩
    rw [Option.some.inj (hc.symm.trans hmin)]
    exact Number.lt_self a
  | none =>
    cases hmax : o.max with
    | some b =>
      refine ⟨b, h.max b hmax, hintegral b, by simp [hmin], fun c hc => ?_⟩
      rw [Option.some.inj (hc.symm.trans hmax)]
      exact Number.lt_self b
    | none => exact ⟨.finite false .zero, rfl, hintegral _, by simp [hmin], by simp [hmax]⟩

/-- Ordered options with room admit a number other than NaN. -/
theorem Ordered.exists_admits (h : o.Ordered) (hroom : o.HasRoom) :
    ∃ n, n.isNaN = false ∧ o.Admits n := by
  cases hinteger : o.integer with
  | false => exact h.exists_admits_of_fraction hinteger
  | true =>
    obtain ⟨k, hmin, hmax⟩ := hroom hinteger
    obtain ⟨n, j, hn, hmin, hmax⟩ := Number.exists_isInteger_between hmin hmax
    exact ⟨n, hn.isNaN_eq_false, fun _ => Number.isIntegral_iff.mpr ⟨j, hn⟩,
      fun a ha => (hn.atOrBelow_iff.mp (hmin a ha)).2,
      fun b hb => (hn.atOrAbove_iff.mp (hmax b hb)).2⟩

/-- A checker that passes what the options admit passes something just if they have room. -/
theorem Ordered.passesIfRoom (h : o.Ordered) {passes : Value → Prop}
    (hpasses : ∀ v, passes v ↔ ∃ n ∈ v.number?, o.Admits n) : o.PassesIfRoom passes where
  some_number hroom := by
    obtain ⟨n, hn, hadmits⟩ := h.exists_admits hroom
    exact ⟨n, hn, (hpasses _).mpr ⟨n, rfl, hadmits⟩⟩
  no_value hroom v hv := by
    obtain ⟨n, -, hadmits⟩ := (hpasses v).mp hv
    exact hroom (h.hasRoom_of_admits hadmits)

theorem Contains.ordered (h : o.Contains n) : o.Ordered := by
  constructor
  · intro a ha
    obtain ⟨x, y, hx, -⟩ := h.above a ha
    simp [Number.isNaN, hx]
  · intro b hb
    obtain ⟨x, y, -, hy, -⟩ := h.below b hb
    simp [Number.isNaN, hy]
  · intro a ha b hb
    obtain ⟨x, y, hx, hy, hxy⟩ := h.above a ha
    obtain ⟨y', z, hy', hz, hyz⟩ := h.below b hb
    cases Option.some.inj (hy.symm.trans hy')
    simpa [Number.lt, hx, hz] using Int.le_trans hxy hyz

/-- Some number meets all that is asked just if the bounds are in order and leave room. -/
theorem exists_contains_iff : (∃ n, o.Contains n) ↔ o.Ordered ∧ o.HasRoom := by
  constructor
  · rintro ⟨n, hcontains⟩
    have hordered := hcontains.ordered
    suffices hcomparable : o.Comparable n from
      ⟨hordered, hordered.hasRoom_of_admits (hcomparable.admits_iff.mpr hcontains)⟩
    refine hordered.comparable ?_
    rintro rfl
    refine ⟨Option.eq_none_iff_forall_not_mem.mpr fun a ha => ?_,
      Option.eq_none_iff_forall_not_mem.mpr fun b hb => ?_⟩
    · obtain ⟨_, _, -, hnan, -⟩ := hcontains.above a ha
      cases hnan
    · obtain ⟨_, _, hnan, -⟩ := hcontains.below b hb
      cases hnan
  · rintro ⟨hordered, hroom⟩
    obtain ⟨n, hn, hadmits⟩ := hordered.exists_admits hroom
    refine ⟨n, (hordered.comparable ?_).admits_iff.mp hadmits⟩
    rintro rfl
    cases hn

/-- There is no integer between zero and one. -/
theorem not_hasRoom_of_proper {a b : Number} (ha : (Number.finite false .zero).lt a = true)
    (hb : b.lt (.ofNat 1) = true) : ¬ HasRoom ⟨some a, some b, true⟩ := by
  intro h
  obtain ⟨k, hmin, hmax⟩ := h rfl
  rcases Int.lt_or_le 0 k with hk | hk
  · have habove : b.AtOrAbove 1 := (hmax b rfl).mono hk
    rw [Number.isInteger_one.atOrAbove_iff, hb] at habove
    cases habove.2
  · have hbelow : a.AtOrBelow 0 := (hmin a rfl).mono hk
    rw [Number.isInteger_zero.atOrBelow_iff, ha] at hbelow
    cases hbelow.2

end NumberOptions

namespace NumberRule

/-- What is built from options passes some number if they leave room for one, and nothing if they do
not. Options leave room, and can be built from, just if some number is what they ask for. -/
theorem passes_some_number (o : NumberOptions) :
    ((∃ n, o.Contains n) ↔ (∃ rule, (compile o).result = .ok rule) ∧ o.HasRoom) ∧
    (∀ rule, (compile o).result = .ok rule → o.PassesIfRoom (rule.violation? · = none)) ∧
    (∀ p, (Validator.number o).result = .ok p → o.PassesIfRoom p.Passes) ∧
    ∀ i, (Inspector.number o).result = .ok i → o.PassesIfRoom i.Passes := by
  simp only [result_compile]
  refine ⟨?_, fun rule h => ?_, fun p h => ?_, fun i h => ?_⟩
  · rw [NumberOptions.exists_contains_iff, exists_ofOptions_iff]
  · have hordered := exists_ofOptions_iff.mp ⟨rule, h⟩
    exact hordered.passesIfRoom fun _ => violation?_eq_none_iff h
  · have hordered := (Validator.number_decides.exists_iff o).mp ⟨p, h⟩
    exact hordered.passesIfRoom (Validator.number_decides.passes_iff h)
  · have hordered := (Inspector.number_decides.exists_iff o).mp ⟨i, h⟩
    exact hordered.passesIfRoom (Inspector.number_decides.passes_iff h)

/-- Integers from minus three halves to a quarter. -/
def aroundZero : NumberOptions := ⟨some (.ofRatio true 3 2), some (.ofRatio false 1 4), true⟩

theorem passes_some_number_around_zero : ∃ rule p i,
    (compile aroundZero).result = .ok rule ∧ (Validator.number aroundZero).result = .ok p ∧
      (Inspector.number aroundZero).result = .ok i ∧
      (∃ n, rule.violation? (.number n) = none) ∧ (∃ n, p.Passes (.number n)) ∧
      ∃ n, i.Passes (.number n) := by
  have hordered : aroundZero.Ordered := NumberOptions.ordered_iff.mpr (by decide +kernel)
  have hroom : aroundZero.HasRoom := fun _ => by
    refine ⟨0, fun a ha => ?_, fun b hb => ?_⟩
    · rw [Number.isInteger_zero.atOrBelow_iff, ← Option.some.inj ha]
      decide +kernel
    · rw [Number.isInteger_zero.atOrAbove_iff, ← Option.some.inj hb]
      decide +kernel
  obtain ⟨rule, hrule⟩ := exists_ofOptions_iff.mpr hordered
  replace hrule : (compile aroundZero).result = .ok rule := (result_compile _).trans hrule
  obtain ⟨p, hp⟩ := (Validator.number_decides.exists_iff _).mpr hordered
  obtain ⟨i, hi⟩ := (Inspector.number_decides.exists_iff _).mpr hordered
  obtain ⟨-, hrules, hvalidators, hinspectors⟩ := passes_some_number aroundZero
  obtain ⟨n, -, hn⟩ := (hrules rule hrule).some_number hroom
  obtain ⟨m, -, hm⟩ := (hvalidators p hp).some_number hroom
  obtain ⟨k, -, hk⟩ := (hinspectors i hi).some_number hroom
  exact ⟨rule, p, i, hrule, hp, hi, ⟨n, hn⟩, ⟨m, hm⟩, k, hk⟩

/-- Integers from a quarter to three quarters, of which there is none. -/
def quarters : NumberOptions := ⟨some (.ofRatio false 1 4), some (.ofRatio false 3 4), true⟩

theorem quarters_pass_nothing :
    (∃ rule, (compile quarters).result = .ok rule ∧ ∀ v, rule.violation? v ≠ none) ∧
    (∃ p, (Validator.number quarters).result = .ok p ∧ ∀ v, ¬ p.Passes v) ∧
    ∃ i, (Inspector.number quarters).result = .ok i ∧ ∀ v, ¬ i.Passes v := by
  have hordered : quarters.Ordered := NumberOptions.ordered_iff.mpr (by decide +kernel)
  have hroom : ¬ quarters.HasRoom :=
    NumberOptions.not_hasRoom_of_proper (by decide +kernel) (by decide +kernel)
  obtain ⟨rule, hrule⟩ := exists_ofOptions_iff.mpr hordered
  obtain ⟨p, hp⟩ := (Validator.number_decides.exists_iff _).mpr hordered
  obtain ⟨i, hi⟩ := (Inspector.number_decides.exists_iff _).mpr hordered
  refine ⟨⟨rule, (result_compile _).trans hrule, ?_⟩, ⟨p, hp, ?_⟩, i, hi, ?_⟩
  · have hpasses : quarters.PassesIfRoom (rule.violation? · = none) :=
      hordered.passesIfRoom fun _ => violation?_eq_none_iff hrule
    exact hpasses.no_value hroom
  · exact (hordered.passesIfRoom (Validator.number_decides.passes_iff hp)).no_value hroom
  · exact (hordered.passesIfRoom (Inspector.number_decides.passes_iff hi)).no_value hroom

end NumberRule

end Conform
