import Conform.Proofs.Bounds
import Conform.Proofs.Meaning

/-! What the builders of checkers decide: which options a checker can be built from, and which
values it passes. Both are conditions on the options, and the same for both kinds of checker. -/

namespace Conform

variable {α β ω : Type} {v : Value}

def Validator.Passes (p : Validator) (v : Value) : Prop := (p.validate v).value = true

def Inspector.Passes (i : Inspector) (v : Value) : Prop := (i.inspect v).value.passed = true

theorem Validator.passes_iff {p : Validator} : p.Passes v ↔ (p.outcome v).passed = true := Iff.rfl

theorem Inspector.passes_iff {i : Inspector} : i.Passes v ↔ (i.outcome v).passed = true := by
  rw [Passes, ← outcome_inspect]
  exact Iff.rfl

/-- Checkers are built just from feasible options. They pass what can be read as one kind of data
and is admitted by the options. -/
structure Build.Decides (build : ω → Build α) (passes : α → Value → Prop) (feasible : ω → Prop)
    (read? : Value → Option β) (admits : ω → β → Prop) : Prop where
  exists_iff : ∀ o, (∃ c, (build o).result = .ok c) ↔ feasible o
  passes_iff : ∀ {o c}, (build o).result = .ok c → ∀ v, passes c v ↔ ∃ x ∈ read? v, admits o x

namespace Build.Decides

variable {build : ω → Build α} {passes : α → Value → Prop} {feasible : ω → Prop}
  {read? : Value → Option β} {admits : ω → β → Prop} {outcome : α → Value → Outcome}

/-- It is enough to know the meaning of the options. -/
theorem of_means {meaning : ω → Except ConfigError (Value → Outcome)}
    (hmeans : ∀ o, Build.Means outcome (build o) (meaning o))
    (hpasses : ∀ c v, passes c v ↔ (outcome c v).passed = true)
    (hexists : ∀ o, (∃ m, meaning o = .ok m) ↔ feasible o)
    (hadmits : ∀ {o m}, meaning o = .ok m → ∀ v, (m v).passed = true ↔ ∃ x ∈ read? v, admits o x) :
    Decides build passes feasible read? admits where
  exists_iff o := by
    rw [← hexists]
    constructor
    · rintro ⟨c, hc⟩
      exact ⟨_, (hmeans o).meaning_of_ok hc⟩
    · rintro ⟨m, hm⟩
      obtain ⟨c, hc, -⟩ := (hmeans o).exists_of_meaning hm
      exact ⟨c, hc⟩
  passes_iff {o c} hc v :=
    (hpasses c v).trans (hadmits ((hmeans o).meaning_of_ok hc) v)

/-- It is enough to know of which options there is a rule, and what the rule passes. -/
theorem of_rule {ρ : Type} {rule : ω → Except ConfigError ρ}
    {violation? : ρ → Value → Option Violation}
    (hmeans : ∀ o, Build.Means outcome (build o) (do return .ofRule (violation? (← rule o))))
    (hpasses : ∀ c v, passes c v ↔ (outcome c v).passed = true)
    (hexists : ∀ o, (∃ r, rule o = .ok r) ↔ feasible o)
    (hadmits : ∀ {o r}, rule o = .ok r → ∀ v,
      violation? r v = none ↔ ∃ x ∈ read? v, admits o x) :
    Decides build passes feasible read? admits := by
  refine of_means hmeans hpasses (fun o => ?_) fun {o m} hm v => ?_
  · rw [← hexists]
    constructor
    · rintro ⟨m, hm⟩
      obtain ⟨r, hr, -⟩ := bind_eq_ok_iff.mp hm
      exact ⟨r, hr⟩
    · rintro ⟨r, hr⟩
      exact ⟨_, bind_eq_ok_iff.mpr ⟨r, hr, rfl⟩⟩
  · obtain ⟨r, hr, hm⟩ := bind_eq_ok_iff.mp hm
    cases hm
    rw [← hadmits hr]
    exact Option.isNone_iff_eq_none

end Build.Decides

/-- A rule for strings admits the strings that its options admit, and nothing else. -/
theorem StringRule.violation?_eq_none_iff {o : StringOptions} {rule : StringRule}
    (h : ofOptions o = .ok rule) : rule.violation? v = none ↔ ∃ s ∈ v.text?, o.Admits s := by
  cases v with
  | string s => simpa [violation?, Value.text?] using stringViolation?_eq_none_iff h
  | _ => simp [violation?, Value.text?]

namespace NumberRule

/-- A rule for numbers admits the numbers that its options admit, and nothing else. -/
theorem violation?_eq_none_iff {o : NumberOptions} {rule : NumberRule}
    (h : ofOptions o = .ok rule) : rule.violation? v = none ↔ ∃ n ∈ v.number?, o.Admits n := by
  obtain ⟨-, rfl⟩ := ofOptions_eq_ok_iff.mp h
  cases v with
  | number n => simpa [violation?, Value.number?] using numberViolation?_eq_none_iff
  | _ => simp [violation?, Value.number?]

theorem exists_ofOptions_iff {o : NumberOptions} :
    (∃ rule, ofOptions o = .ok rule) ↔ o.Ordered := by
  simp [ofOptions_eq_ok_iff]

end NumberRule

namespace ArrayOptions

/-- Options that a checker can be built from: there is such a length. -/
def Feasible (o : ArrayOptions α) : Prop := ∃ n, LengthRule.Admits none o.minLength o.maxLength n

/-- The elements that options admit. -/
structure Admits (passes : α → Value → Prop) (o : ArrayOptions α) (items : List Value) : Prop where
  length : LengthRule.Admits none o.minLength o.maxLength items.length
  element : ∀ c ∈ o.element, ∀ item ∈ items, passes c item

variable {passes : α → Value → Prop} {outcome : α → Value → Outcome} {o : ArrayOptions α}

theorem admits_iff {items : List Value} : o.Admits passes items ↔
    LengthRule.Admits none o.minLength o.maxLength items.length ∧
      ∀ c ∈ o.element, ∀ item ∈ items, passes c item := by
  constructor
  · intro h
    exact ⟨h.length, h.element⟩
  · rintro ⟨hlength, helement⟩
    exact ⟨hlength, helement⟩

/-- An array passes if its length is admitted and its elements pass. -/
theorem passed_ofArray {length : LengthRule}
    (h : LengthRule.ofBounds none o.minLength o.maxLength = .ok length)
    (hpasses : ∀ c v, passes c v ↔ (outcome c v).passed = true) (v : Value) :
    (Outcome.ofArray length (o.element.map outcome) v).passed = true ↔
      ∃ items ∈ v.items?, o.Admits passes items := by
  cases v with
  | array id items =>
    simp only [Value.items?, Option.mem_def, Option.some.injEq, exists_eq_left', admits_iff]
    rw [← LengthRule.violation?_eq_none_iff h]
    cases hviolation : length.violation? items.length with
    | some violation => simp [Outcome.ofArray, Outcome.silent, hviolation]
    | none =>
      cases helement : o.element with
      | none => simp [Outcome.ofArray, Outcome.silent, hviolation]
      | some c => simp [Outcome.ofArray, Outcome.every, hviolation, hpasses]
  | _ => simp [Outcome.ofArray, Outcome.silent, Value.items?]

/-- Both kinds of checker decide of arrays by length and elements. -/
theorem decides {build : ArrayOptions α → Build α}
    (hmeans : ∀ o, Build.Means outcome (build o) (do
      let length ← LengthRule.ofBounds none o.minLength o.maxLength
      return .ofArray length (o.element.map outcome)))
    (hpasses : ∀ c v, passes c v ↔ (outcome c v).passed = true) :
    Build.Decides build passes Feasible Value.items? (Admits passes) := by
  refine .of_means hmeans hpasses (fun o => ?_) fun {o m} hm v => ?_
  · refine Iff.trans ?_ LengthRule.exists_ofBounds_iff
    constructor
    · rintro ⟨m, hm⟩
      obtain ⟨length, hlength, -⟩ := bind_eq_ok_iff.mp hm
      exact ⟨length, hlength⟩
    · rintro ⟨length, hlength⟩
      exact ⟨_, bind_eq_ok_iff.mpr ⟨length, hlength, rfl⟩⟩
  · obtain ⟨length, hlength, hm⟩ := bind_eq_ok_iff.mp hm
    cases hm
    exact passed_ofArray hlength hpasses v

end ArrayOptions

namespace Validator

/-- Validators of strings decide what their options admit. -/
theorem string_decides :
    Build.Decides string Passes StringOptions.Feasible Value.text? StringOptions.Admits :=
  .of_rule (fun _ => means_ofRule (StringRule.compile_eq _) _) (fun _ _ => passes_iff)
    (fun _ => StringRule.exists_ofOptions_iff) fun h _ => StringRule.violation?_eq_none_iff h

theorem number_decides :
    Build.Decides number Passes NumberOptions.Ordered Value.number? NumberOptions.Admits :=
  .of_rule (fun _ => means_ofRule (NumberRule.compile_eq _) _) (fun _ _ => passes_iff)
    (fun _ => NumberRule.exists_ofOptions_iff) fun h _ => NumberRule.violation?_eq_none_iff h

theorem array_decides : Build.Decides array Passes ArrayOptions.Feasible Value.items?
    (ArrayOptions.Admits Passes) :=
  ArrayOptions.decides means_array fun _ _ => passes_iff

end Validator

namespace Inspector

theorem means_array (options : ArrayOptions Inspector) :
    Build.Means outcome (array options) (do
      let length ← LengthRule.ofBounds none options.minLength options.maxLength
      return .ofArray length (options.element.map outcome)) :=
  (Build.Means.compiled (LengthRule.compile_eq _ _ _)).bind fun length =>
    .pure (outcome_arrayWith length options.element)

theorem string_decides :
    Build.Decides string Passes StringOptions.Feasible Value.text? StringOptions.Admits :=
  .of_rule (fun _ => means_ofRule (StringRule.compile_eq _) _) (fun _ _ => passes_iff)
    (fun _ => StringRule.exists_ofOptions_iff) fun h _ => StringRule.violation?_eq_none_iff h

theorem number_decides :
    Build.Decides number Passes NumberOptions.Ordered Value.number? NumberOptions.Admits :=
  .of_rule (fun _ => means_ofRule (NumberRule.compile_eq _) _) (fun _ _ => passes_iff)
    (fun _ => NumberRule.exists_ofOptions_iff) fun h _ => NumberRule.violation?_eq_none_iff h

theorem array_decides : Build.Decides array Passes ArrayOptions.Feasible Value.items?
    (ArrayOptions.Admits Passes) :=
  ArrayOptions.decides means_array fun _ _ => passes_iff

end Inspector

end Conform
