import Conform.Proofs.Decisions
import Conform.Proofs.Integers

/-! Bounds on a number, and the rule that is made from them: which numbers it passes, and what it
reports of the others. The rule refuses what lies past a bound; NaN lies past none, so that it
passes bounds between which it does not lie. -/

namespace Conform

namespace Number

variable {n a b : Number}

/-- The comparison `a ≤ b`, which does not hold of NaN. -/
def AtMost (a b : Number) : Prop := ∃ x y, a.position = some x ∧ b.position = some y ∧ x ≤ y

theorem exists_position (h : a.isNaN = false) : ∃ x, a.position = some x :=
  Option.isSome_iff_exists.mp (by simpa [isNaN] using h)

/-- Save for NaN, what does not lie past a bound keeps it. -/
theorem lt_iff_not_atMost (ha : a.isNaN = false) (hb : b.isNaN = false) :
    a.lt b = true ↔ ¬ b.AtMost a := by
  obtain ⟨x, hx⟩ := exists_position ha
  obtain ⟨y, hy⟩ := exists_position hb
  simp [lt, AtMost, hx, hy]

theorem atMost_iff (ha : a.isNaN = false) (hb : b.isNaN = false) :
    a.AtMost b ↔ b.lt a = false := by
  rw [← Bool.not_eq_true, lt_iff_not_atMost hb ha, Classical.not_not]

theorem isNaN_eq_false (h : n ≠ nan) : n.isNaN = false := by
  cases n with
  | nan => exact (h rfl).elim
  | infinity negative => rfl
  | finite negative m => rfl

end Number

namespace NumberOptions

/-- What the options ask of a number. -/
structure Contains (o : NumberOptions) (n : Number) : Prop where
  integral : o.integer = true → ∃ k, n.IsInteger k
  above : ∀ a ∈ o.min, a.AtMost n
  below : ∀ b ∈ o.max, n.AtMost b

/-- What a value is reported to break: its type comes first, then that it is an integer, then the
lower bound. -/
inductive Breaks (o : NumberOptions) : Value → Violation → Prop where
  | type {v : Value} : v.isNumber = false → Breaks o v (.wrongType Datatype.number.name v.datatype)
  | fraction {n : Number} : o.integer = true → (¬ ∃ k, n.IsInteger k) →
      Breaks o (.number n) (.notInteger n)
  | below {n a : Number} : (o.integer = true → ∃ k, n.IsInteger k) → a ∈ o.min → ¬ a.AtMost n →
      Breaks o (.number n) (.tooSmall a n)
  | above {n b : Number} : (o.integer = true → ∃ k, n.IsInteger k) → (∀ a ∈ o.min, a.AtMost n) →
      b ∈ o.max → ¬ n.AtMost b → Breaks o (.number n) (.tooLarge b n)

/-- The number lies past a bound if it does not lie on the right side of it. -/
structure Comparable (o : NumberOptions) (n : Number) : Prop where
  min : ∀ a ∈ o.min, n.lt a = true ↔ ¬ a.AtMost n
  max : ∀ b ∈ o.max, b.lt n = true ↔ ¬ n.AtMost b

variable {o : NumberOptions} {n : Number} {w : Violation}

theorem ordered_iff {a b : Number} {integer : Bool} :
    Ordered ⟨some a, some b, integer⟩ ↔ a.isNaN = false ∧ b.isNaN = false ∧ b.lt a = false := by
  constructor
  · intro h
    exact ⟨h.min a rfl, h.max b rfl, h.order a rfl b rfl⟩
  · rintro ⟨ha, hb, hlt⟩
    exact ⟨by simpa using ha, by simpa using hb, by simpa using hlt⟩

/-- Ordered options have no NaN for a bound, so that only NaN itself escapes comparison. -/
theorem Ordered.comparable (h : o.Ordered) (hn : n = .nan → o.min = .none ∧ o.max = .none) :
    o.Comparable n := by
  by_cases hnan : n = .nan
  · obtain ⟨hmin, hmax⟩ := hn hnan
    exact ⟨by simp [hmin], by simp [hmax]⟩
  · have hn : n.isNaN = false := Number.isNaN_eq_false hnan
    exact ⟨fun a ha => Number.lt_iff_not_atMost hn (h.min a ha),
      fun b hb => Number.lt_iff_not_atMost (h.max b hb) hn⟩

namespace Comparable

theorem min_iff (h : o.Comparable n) : (∀ a ∈ o.min, n.lt a = false) ↔ ∀ a ∈ o.min, a.AtMost n := by
  refine forall₂_congr fun a ha => ?_
  rw [← Bool.not_eq_true, h.min a ha, Classical.not_not]

theorem max_iff (h : o.Comparable n) : (∀ b ∈ o.max, b.lt n = false) ↔ ∀ b ∈ o.max, n.AtMost b := by
  refine forall₂_congr fun b hb => ?_
  rw [← Bool.not_eq_true, h.max b hb, Classical.not_not]

/-- Numbers that can be compared with the bounds are admitted just if they lie between them. -/
theorem admits_iff (h : o.Comparable n) : o.Admits n ↔ o.Contains n := by
  constructor
  · intro hadmits
    exact ⟨fun hinteger => Number.isIntegral_iff.mp (hadmits.integral hinteger),
      h.min_iff.mp hadmits.above, h.max_iff.mp hadmits.below⟩
  · intro hcontains
    exact ⟨fun hinteger => Number.isIntegral_iff.mpr (hcontains.integral hinteger),
      h.min_iff.mpr hcontains.above, h.max_iff.mpr hcontains.below⟩

end Comparable

end NumberOptions

namespace NumberRule

variable {o : NumberOptions} {rule : NumberRule} {n : Number} {v : Value} {w : Violation}

/-- That a number is no integer is reported before its bounds. -/
theorem numberViolation?_of_fraction (hinteger : rule.options.integer = true)
    (hn : n.isIntegral = false) : rule.numberViolation? n = some (.notInteger n) := by
  simp [numberViolation?, hinteger, hn]

/-- The lower bound is reported before the upper one. -/
theorem numberViolation?_eq_some_iff (h : rule.options.integer = true → n.isIntegral = true) :
    rule.numberViolation? n = some w ↔
      (∃ a ∈ rule.options.min, n.lt a = true ∧ .tooSmall a n = w) ∨
        (∀ a ∈ rule.options.min, n.lt a = false) ∧
          ∃ b ∈ rule.options.max, b.lt n = true ∧ .tooLarge b n = w := by
  have hintegral : (rule.options.integer && !n.isIntegral) = false := by
    cases hinteger : rule.options.integer with
    | false => rfl
    | true => simp [h hinteger]
  rw [numberViolation?, hintegral]
  refine stage_eq_some_iff.trans ?_
  simp [and_assoc]

/-- A number that is asked to be an integer, and is none, is reported as that. -/
theorem breaks_of_fraction (hinteger : rule.options.integer = true) (hn : n.isIntegral = false) :
    rule.numberViolation? n = some w ↔ rule.options.Breaks (.number n) w := by
  have hnone : ¬ ∃ k, n.IsInteger k := by
    rw [← Number.isIntegral_iff, hn]
    exact Bool.false_ne_true
  rw [numberViolation?_of_fraction hinteger hn]
  constructor
  · intro h
    cases h
    exact .fraction hinteger hnone
  · intro h
    cases h with
    | type hv => cases hv
    | fraction _ _ => rfl
    | below hintegral => exact (hnone (hintegral hinteger)).elim
    | above hintegral => exact (hnone (hintegral hinteger)).elim

/-- A number that may have a fraction, or has none, is reported by the bound that it lies past. -/
theorem breaks_of_comparable (h : rule.options.integer = true → n.isIntegral = true)
    (hcomparable : rule.options.Comparable n) :
    rule.numberViolation? n = some w ↔ rule.options.Breaks (.number n) w := by
  have hintegral (hinteger : rule.options.integer = true) : ∃ k, n.IsInteger k :=
    Number.isIntegral_iff.mp (h hinteger)
  rw [numberViolation?_eq_some_iff h]
  constructor
  · rintro (⟨a, ha, hlt, rfl⟩ | ⟨habove, b, hb, hlt, rfl⟩)
    · exact .below hintegral ha ((hcomparable.min a ha).mp hlt)
    · exact .above hintegral (hcomparable.min_iff.mp habove) hb ((hcomparable.max b hb).mp hlt)
  · intro hbreaks
    cases hbreaks with
    | type hv => cases hv
    | fraction hinteger hnone => exact (hnone (hintegral hinteger)).elim
    | below _ ha hlt => exact .inl ⟨_, ha, (hcomparable.min _ ha).mpr hlt, rfl⟩
    | above _ habove hb hlt =>
      exact .inr ⟨hcomparable.min_iff.mpr habove, _, hb, (hcomparable.max _ hb).mpr hlt, rfl⟩

theorem violation?_of_isNumber_eq_false (h : v.isNumber = false) :
    rule.violation? v = some (.wrongType Datatype.number.name v.datatype) := by
  cases v with
  | number n => cases h
  | _ => rfl

/-- What is no number is reported for its type. -/
theorem keeps_bounds_of_isNumber_eq_false (h : v.isNumber = false) :
    (rule.violation? v = none ↔ ∃ n, v = .number n ∧ rule.options.Contains n) ∧
      ∀ w, rule.violation? v = some w ↔ rule.options.Breaks v w := by
  rw [violation?_of_isNumber_eq_false h]
  constructor
  · simp only [reduceCtorEq, false_iff]
    rintro ⟨n, rfl, -⟩
    cases h
  · intro w
    constructor
    · intro hw
      cases hw
      exact .type h
    · intro hw
      cases hw with
      | type => rfl
      | fraction => cases h
      | below => cases h
      | above => cases h

/-- A rule keeps its bounds on every number but NaN, and on NaN where an integer is asked for or
there are no bounds. -/
theorem keeps_bounds_of_number (rule : NumberRule) (hordered : rule.options.Ordered)
    (hn : n = .nan → rule.options.integer = true ∨ rule.options.min = none ∧
      rule.options.max = none) :
    (rule.numberViolation? n = none ↔ rule.options.Contains n) ∧
      ∀ w, rule.numberViolation? n = some w ↔ rule.options.Breaks (.number n) w := by
  by_cases hfraction : rule.options.integer = true ∧ n.isIntegral = false
  · obtain ⟨hinteger, hfalse⟩ := hfraction
    refine ⟨?_, fun w => breaks_of_fraction hinteger hfalse⟩
    rw [numberViolation?_of_fraction hinteger hfalse]
    simp only [reduceCtorEq, false_iff]
    intro hcontains
    rw [Number.isIntegral_iff.mpr (hcontains.integral hinteger)] at hfalse
    cases hfalse
  · have hintegral : rule.options.integer = true → n.isIntegral = true := by
      simpa using hfraction
    have hcomparable : rule.options.Comparable n := by
      refine hordered.comparable fun hnan => ?_
      subst hnan
      exact (hn rfl).resolve_left fun hinteger => Bool.false_ne_true (hintegral hinteger)
    rw [numberViolation?_eq_none_iff, hcomparable.admits_iff]
    exact ⟨Iff.rfl, fun w => breaks_of_comparable hintegral hcomparable⟩

/-- NaN is not past any bound. -/
theorem numberViolation?_nan (h : rule.options.integer = false) :
    rule.numberViolation? .nan = none := by
  refine numberViolation?_eq_none_iff.mpr ⟨?_, fun _ _ => rfl, fun b _ => ?_⟩
  · simp [h]
  · cases b <;> rfl

/-- Options make a rule just if their bounds are numbers in order. The rule passes the numbers that
lie between the bounds and are integers if that is asked, and reports the first that any other value
breaks. NaN alone passes bounds between which it does not lie, unless it has to be an integer. -/
theorem passes_between_bounds (o : NumberOptions) :
    ((∃ rule, (compile o).result = .ok rule) ↔ o.Ordered) ∧
    ∀ rule, (compile o).result = .ok rule →
      (∀ v, (v = .number .nan → o.integer = true ∨ o.min = none ∧ o.max = none) →
        (rule.violation? v = none ↔ ∃ n, v = .number n ∧ o.Contains n) ∧
        ∀ w, rule.violation? v = some w ↔ o.Breaks v w) ∧
      (o.integer = false → rule.violation? (.number .nan) = none) := by
  simp only [result_compile, ofOptions_eq_ok_iff]
  refine ⟨?_, ?_⟩
  · constructor
    · rintro ⟨rule, hordered, -⟩
      exact hordered
    · intro hordered
      exact ⟨⟨o⟩, hordered, rfl⟩
  · rintro rule ⟨hordered, rfl⟩
    refine ⟨fun v hv => ?_, fun hinteger => ?_⟩
    · cases v with
      | number n =>
        simpa [violation?] using keeps_bounds_of_number ⟨o⟩ hordered
          fun hn => hv (congrArg Value.number hn)
      | _ => exact keeps_bounds_of_isNumber_eq_false rfl
    · exact numberViolation?_nan hinteger

/-- Integers from zero to a hundred. -/
def percent : NumberOptions := ⟨some (.ofNat 0), some (.ofNat 100), true⟩

theorem passes_between_bounds_percent : ∃ rule, (compile percent).result = .ok rule ∧
    rule.violation? (.number (.ofNat 40)) = none ∧
    rule.violation? (.number (.ofNat 101)) = some (.tooLarge (.ofNat 100) (.ofNat 101)) := by
  have hordered : percent.Ordered := NumberOptions.ordered_iff.mpr (by decide +kernel)
  have habove {n : Number} (hn : n.isNaN = false) (hlt : n.lt (.ofNat 0) = false) :
      ∀ a ∈ percent.min, a.AtMost n := fun a ha => by
    rw [← Option.some.inj ha, Number.atMost_iff (by decide +kernel) hn, hlt]
  have hcontains : percent.Contains (.ofNat 40) := by
    refine ⟨fun _ => Number.isIntegral_iff.mp (by decide +kernel),
      habove (by decide +kernel) (by decide +kernel), fun b hb => ?_⟩
    rw [← Option.some.inj hb, Number.atMost_iff (by decide +kernel) (by decide +kernel)]
    decide +kernel
  have hbreaks : percent.Breaks (.number (.ofNat 101)) (.tooLarge (.ofNat 100) (.ofNat 101)) := by
    refine .above (fun _ => Number.isIntegral_iff.mp (by decide +kernel))
      (habove (by decide +kernel) (by decide +kernel)) rfl ?_
    rw [← Number.lt_iff_not_atMost (by decide +kernel) (by decide +kernel)]
    decide +kernel
  obtain ⟨rule, hrule⟩ := (passes_between_bounds percent).1.mpr hordered
  have hkeeps := ((passes_between_bounds percent).2 rule hrule).1
  exact ⟨rule, hrule, (hkeeps _ fun _ => .inl rfl).1.mpr ⟨_, rfl, hcontains⟩,
    ((hkeeps _ fun _ => .inl rfl).2 _).mpr hbreaks⟩

/-- Numbers from zero to one. -/
def unitInterval : NumberOptions := ⟨some (.ofNat 0), some (.ofNat 1), false⟩

theorem nan_passes_bounds : ∃ rule, (compile unitInterval).result = .ok rule ∧
    rule.violation? (.number .nan) = none ∧ ¬ unitInterval.Contains .nan := by
  have hordered : unitInterval.Ordered := NumberOptions.ordered_iff.mpr (by decide +kernel)
  refine ⟨⟨unitInterval⟩, ?_, ?_, ?_⟩
  · exact (result_compile _).trans (ofOptions_eq_ok_iff.mpr ⟨hordered, rfl⟩)
  · exact numberViolation?_nan rfl
  · intro hcontains
    obtain ⟨_, _, _, hnan, _⟩ := hcontains.above _ rfl
    cases hnan

end NumberRule

end Conform
