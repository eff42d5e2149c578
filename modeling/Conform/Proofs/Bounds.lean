import Conform.Rule.Compilation

/-! What rules admit, as conditions on the options that they are made from. Bounds on lengths make a
rule just if they admit some length. -/

namespace Conform

theorem mapM_eq_ok_iff {ε α β : Type} {f : α → Except ε β} {a : Option α} {b : Option β} :
    a.mapM f = .ok b ↔ a.map f = b.map .ok := by
  cases a with
  | none => cases b <;> simp [pure, Except.pure]
  | some a =>
    cases b <;> cases h : f a <;> simp [h, Functor.map, Except.map]

/-- A stage reports its bound if that is broken, and leaves all else to the next stages. -/
theorem stage_eq_some_iff {α : Type} {bound : Option α} {broken : α → Bool} {report : α → Violation}
    {next : Option Violation} {v : Violation} :
    ((bound.filter broken).map report <|> next) = some v ↔
      (∃ a ∈ bound, broken a = true ∧ report a = v) ∨
        (∀ a ∈ bound, broken a = false) ∧ next = some v := by
  cases bound with
  | none => simp
  | some a => cases h : broken a <;> simp [Option.filter, h]

namespace LengthRule

/-- The lengths that an exact length and bounds admit, as far as these are given. -/
structure Admits (length min max : Option Nat) (n : Nat) : Prop where
  exactly : ∀ a ∈ length, n = a
  above : ∀ a ∈ min, a ≤ n
  below : ∀ a ∈ max, n ≤ a

variable {length min max : Option Nat} {rule : LengthRule} {n : Nat}

theorem admits_iff : Admits length min max n ↔
    (∀ a ∈ length, n = a) ∧ (∀ a ∈ min, a ≤ n) ∧ ∀ a ∈ max, n ≤ a := by
  constructor
  · intro h
    exact ⟨h.exactly, h.above, h.below⟩
  · rintro ⟨hexactly, habove, hbelow⟩
    exact ⟨hexactly, habove, hbelow⟩

theorem violation?_exactly {a : Nat} : (exactly a).violation? n = none ↔ n = a := by
  simp [violation?]

theorem violation?_between :
    (between min max).violation? n = none ↔ Admits none min max n := by
  rw [admits_iff]
  cases min <;> cases max <;> simp [violation?]

/-- Bounds that are equal are an exact length, and admit the same lengths. -/
theorem violation?_ofBetween :
    (ofBetween min max).violation? n = none ↔ Admits none min max n := by
  unfold ofBetween
  split
  · rename_i a b
    split
    · rename_i hab
      rw [violation?_exactly, admits_iff]
      simp only [Option.mem_def, Option.some.injEq]
      constructor
      · rintro rfl
        exact ⟨by simp, by omega, by omega⟩
      · rintro ⟨-, habove, hbelow⟩
        have := habove a rfl
        have := hbelow b rfl
        omega
    · exact violation?_between
  · exact violation?_between

/-- An exact length makes a rule of its own just if the bounds admit it. -/
theorem withLength_some_eq_ok_iff {a : Nat} : ofBounds.withLength (some a) min max = .ok rule ↔
    Admits (some a) min max a ∧ exactly a = rule := by
  rw [ofBounds.withLength]
  split
  · rename_i c hmin
    obtain ⟨hc, hlt⟩ := Option.filter_eq_some_iff.mp hmin
    have hlt : a < c := of_decide_eq_true hlt
    simp only [reduceCtorEq, false_iff, not_and]
    intro h
    have := h.above c hc
    omega
  · rename_i c _ hmax
    obtain ⟨hc, hlt⟩ := Option.filter_eq_some_iff.mp hmax
    have hlt : c < a := of_decide_eq_true hlt
    simp only [reduceCtorEq, false_iff, not_and]
    intro h
    have := h.below c hc
    omega
  · rename_i hmin hmax
    have habove : ∀ c ∈ min, c ≤ a := by
      intro c hc
      have := Option.filter_eq_none_iff.mp hmin c hc
      simpa using this
    have hbelow : ∀ c ∈ max, a ≤ c := by
      intro c hc
      have := Option.filter_eq_none_iff.mp hmax c hc
      simpa using this
    have hadmits : Admits (some a) min max a := ⟨by simp, habove, hbelow⟩
    simp [hadmits]

/-- Bounds are compared with each other first, and then with the exact length. -/
theorem ofBounds_eq_ok_iff : ofBounds length min max = .ok rule ↔
    (∀ a ∈ min, ∀ b ∈ max, a ≤ b) ∧ ofBounds.withLength length min max = .ok rule := by
  cases min with
  | none => simp [ofBounds]
  | some a =>
    cases max with
    | none => simp [ofBounds]
    | some b =>
      rcases Nat.lt_or_ge b a with h | h
      · simp [ofBounds, h, Nat.not_le.mpr h]
      · simp [ofBounds, h, Nat.not_lt.mpr h]

/-- A rule passes just what the options admit that it is made from. -/
theorem violation?_eq_none_iff (h : ofBounds length min max = .ok rule) :
    rule.violation? n = none ↔ Admits length min max n := by
  obtain ⟨-, h⟩ := ofBounds_eq_ok_iff.mp h
  cases length with
  | none =>
    cases h
    exact violation?_ofBetween
  | some a =>
    obtain ⟨hadmits, rfl⟩ := withLength_some_eq_ok_iff.mp h
    rw [violation?_exactly]
    constructor
    · rintro rfl
      exact hadmits
    · intro hn
      exact hn.exactly a rfl

/-- There is a rule just if the options admit a length. -/
theorem exists_ofBounds_iff :
    (∃ rule, ofBounds length min max = .ok rule) ↔ ∃ n, Admits length min max n := by
  constructor
  · rintro ⟨rule, h⟩
    obtain ⟨hordered, hrule⟩ := ofBounds_eq_ok_iff.mp h
    cases length with
    | none =>
      cases min with
      | none => exact ⟨0, by simp, by simp, by simp⟩
      | some a => exact ⟨a, by simp, by simp, hordered a rfl⟩
    | some a => exact ⟨a, (withLength_some_eq_ok_iff.mp hrule).1⟩
  · rintro ⟨n, h⟩
    have hordered : ∀ a ∈ min, ∀ b ∈ max, a ≤ b := by
      intro a ha b hb
      exact Nat.le_trans (h.above a ha) (h.below b hb)
    cases length with
    | none => exact ⟨_, ofBounds_eq_ok_iff.mpr ⟨hordered, rfl⟩⟩
    | some a =>
      obtain rfl := h.exactly a rfl
      exact ⟨_, ofBounds_eq_ok_iff.mpr ⟨hordered, withLength_some_eq_ok_iff.mpr ⟨h, rfl⟩⟩⟩

end LengthRule

namespace NumberOptions

/-- The numbers that options admit. What is not a number is not past any bound. -/
structure Admits (o : NumberOptions) (n : Number) : Prop where
  integral : o.integer = true → n.isIntegral = true
  above : ∀ a ∈ o.min, n.lt a = false
  below : ∀ a ∈ o.max, a.lt n = false

/-- Bounds that are numbers, and in order. -/
structure Ordered (o : NumberOptions) : Prop where
  min : ∀ a ∈ o.min, a.isNaN = false
  max : ∀ a ∈ o.max, a.isNaN = false
  order : ∀ a ∈ o.min, ∀ b ∈ o.max, b.lt a = false

end NumberOptions

namespace NumberRule

theorem numberViolation?_eq_none_iff {rule : NumberRule} {n : Number} :
    rule.numberViolation? n = none ↔ rule.options.Admits n := by
  have hiff : rule.numberViolation? n = none ↔
      (rule.options.integer = true → n.isIntegral = true) ∧
        (∀ a ∈ rule.options.min, n.lt a = false) ∧ ∀ a ∈ rule.options.max, a.lt n = false := by
    simp [numberViolation?]
  rw [hiff]
  constructor
  · rintro ⟨hintegral, habove, hbelow⟩
    exact ⟨hintegral, habove, hbelow⟩
  · intro h
    exact ⟨h.integral, h.above, h.below⟩

/-- There is a rule just for bounds in order, and it has them. -/
theorem ofOptions_eq_ok_iff {o : NumberOptions} {rule : NumberRule} :
    ofOptions o = .ok rule ↔ o.Ordered ∧ ⟨o⟩ = rule := by
  unfold ofOptions
  split
  · rename_i hnan
    rw [Bool.or_eq_true, Option.any_eq_true, Option.any_eq_true] at hnan
    simp only [reduceCtorEq, false_iff, not_and]
    intro h
    rcases hnan with ⟨a, ha, hnan⟩ | ⟨a, ha, hnan⟩
    · rw [h.min a ha] at hnan
      cases hnan
    · rw [h.max a ha] at hnan
      cases hnan
  · rename_i hnan
    simp only [Bool.or_eq_true, Option.any_eq_true, not_or, not_exists, not_and,
      Bool.not_eq_true] at hnan
    split
    · rename_i a b ha hb
      cases hlt : b.lt a with
      | true =>
        simp only [if_true, reduceCtorEq, false_iff, not_and]
        intro h
        rw [h.order a ha b hb] at hlt
        cases hlt
      | false =>
        have hordered : o.Ordered := by
          refine ⟨hnan.1, hnan.2, fun c hc d hd => ?_⟩
          cases Option.some.inj (ha.symm.trans hc)
          cases Option.some.inj (hb.symm.trans hd)
          exact hlt
        simp [hordered]
    · rename_i hbounds
      have hordered : o.Ordered :=
        ⟨hnan.1, hnan.2, fun c hc d hd => (hbounds c d hc hd).elim⟩
      simp [hordered]

end NumberRule

namespace StringOptions

/-- The texts that options admit. -/
structure Admits (o : StringOptions) (s : String) : Prop where
  length : LengthRule.Admits o.length o.minLength o.maxLength (Text.units16 s)
  pattern : ∀ source ∈ o.pattern, ∃ p, StringRule.readPattern source = .ok p ∧ p.isFoundIn s = true

/-- Options that a rule can be made from: there is such a pattern, and such a length. -/
structure Feasible (o : StringOptions) : Prop where
  length : ∃ n, LengthRule.Admits o.length o.minLength o.maxLength n
  pattern : ∀ source ∈ o.pattern, ∃ p, StringRule.readPattern source = .ok p

end StringOptions

namespace StringRule

theorem ofOptions_eq_ok_iff {o : StringOptions} {rule : StringRule} : ofOptions o = .ok rule ↔
    o.pattern.mapM readPattern = .ok rule.pattern ∧
      LengthRule.ofBounds o.length o.minLength o.maxLength = .ok rule.length := by
  simp only [ofOptions, bind_eq_ok_iff]
  constructor
  · rintro ⟨pattern, hpattern, length, hlength, h⟩
    cases h
    exact ⟨hpattern, hlength⟩
  · rintro ⟨hpattern, hlength⟩
    exact ⟨_, hpattern, _, hlength, rfl⟩

/-- A pattern alone is the option of that name. -/
theorem ofOptions_onlyPattern (source : String) :
    ofOptions ⟨some source, none, none, none⟩ = (readPattern source).map ofPattern := by
  unfold ofOptions
  cases h : readPattern source <;> simp [h] <;> rfl

theorem stringViolation?_eq_none_iff {o : StringOptions} {rule : StringRule}
    (h : ofOptions o = .ok rule) {s : String} :
    rule.stringViolation? s = none ↔ o.Admits s := by
  obtain ⟨hpattern, hlength⟩ := ofOptions_eq_ok_iff.mp h
  replace hpattern := mapM_eq_ok_iff.mp hpattern
  have hiff : rule.stringViolation? s = none ↔
      rule.length.violation? (Text.units16 s) = none ∧
        ∀ p ∈ rule.pattern, p.isFoundIn s = true := by
    simp [stringViolation?]
  rw [hiff, LengthRule.violation?_eq_none_iff hlength]
  constructor
  · rintro ⟨hadmits, hfound⟩
    refine ⟨hadmits, fun source hsource => ?_⟩
    rw [Option.mem_def.mp hsource, Option.map_some] at hpattern
    obtain ⟨p, hp, hread⟩ := Option.map_eq_some_iff.mp hpattern.symm
    exact ⟨p, hread.symm, hfound p hp⟩
  · intro hadmits
    refine ⟨hadmits.length, fun p hp => ?_⟩
    rw [Option.mem_def.mp hp, Option.map_some] at hpattern
    obtain ⟨source, hsource, hread⟩ := Option.map_eq_some_iff.mp hpattern
    obtain ⟨q, hq, hfound⟩ := hadmits.pattern source hsource
    rw [hread] at hq
    cases hq
    exact hfound

/-- Options for strings make a rule just if a string can have their pattern and their length. -/
theorem exists_ofOptions_iff {o : StringOptions} :
    (∃ rule, ofOptions o = .ok rule) ↔ o.Feasible := by
  constructor
  · rintro ⟨rule, h⟩
    obtain ⟨hpattern, hlength⟩ := ofOptions_eq_ok_iff.mp h
    refine ⟨LengthRule.exists_ofBounds_iff.mp ⟨_, hlength⟩, fun source hsource => ?_⟩
    replace hpattern := mapM_eq_ok_iff.mp hpattern
    rw [Option.mem_def.mp hsource, Option.map_some] at hpattern
    obtain ⟨p, -, hread⟩ := Option.map_eq_some_iff.mp hpattern.symm
    exact ⟨p, hread.symm⟩
  · intro h
    obtain ⟨length, hlength⟩ := LengthRule.exists_ofBounds_iff.mpr h.length
    have hpattern : ∃ pattern, o.pattern.mapM readPattern = .ok pattern := by
      cases hp : o.pattern with
      | none => exact ⟨none, rfl⟩
      | some source =>
        obtain ⟨p, hread⟩ := h.pattern source hp
        exact ⟨some p, mapM_eq_ok_iff.mpr (congrArg some hread)⟩
    obtain ⟨pattern, hpattern⟩ := hpattern
    exact ⟨⟨length, pattern⟩, ofOptions_eq_ok_iff.mpr ⟨hpattern, hlength⟩⟩

end StringRule

end Conform
