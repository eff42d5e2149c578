import Conform.Proofs.LengthBounds
import Conform.Proofs.Utf16
import Conform.Value.Predicates

/-! What the rule on a string reports: first that a value is none, then a bound on the length that
its units break, and the pattern only if the length is admitted. -/

namespace Conform

open Text (units16 utf16)

/-- What a value is reported to break, with its length counted in units of UTF-16. -/
inductive StringOptions.Breaks (o : StringOptions) : Value → Violation → Prop where
  | type {v : Value} : v.isString = false →
      Breaks o v (.wrongType Datatype.string.name v.datatype)
  | length {s : String} {w : Violation} :
      LengthRule.Breaks o.length o.minLength o.maxLength (utf16 s).length w →
      Breaks o (.string s) w
  | pattern {s source : String} {p : Pattern} :
      LengthRule.Admits o.length o.minLength o.maxLength (utf16 s).length →
      source ∈ o.pattern → StringRule.readPattern source = .ok p → p.isFoundIn s = false →
      Breaks o (.string s) (.unmatched p s)

namespace StringRule

variable {o : StringOptions} {rule : StringRule} {s : String} {v : Value} {w : Violation}
  {p : Pattern}

theorem mem_pattern_iff (h : ofOptions o = .ok rule) :
    p ∈ rule.pattern ↔ ∃ source ∈ o.pattern, readPattern source = .ok p := by
  have hpattern := mapM_eq_ok_iff.mp (ofOptions_eq_ok_iff.mp h).1
  cases hsource : o.pattern with
  | none =>
    rw [hsource] at hpattern
    cases hp : rule.pattern with
    | none => simp
    | some q => simp [hp] at hpattern
  | some source =>
    rw [hsource] at hpattern
    cases hp : rule.pattern with
    | none => simp [hp] at hpattern
    | some q =>
      rw [hp, Option.map_some, Option.map_some, Option.some.injEq] at hpattern
      simp [hpattern]

/-- The length is reported before the pattern. -/
theorem stringViolation?_eq_some_iff : rule.stringViolation? s = some w ↔
    rule.length.violation? (units16 s) = some w ∨
      rule.length.violation? (units16 s) = none ∧
        ∃ p ∈ rule.pattern, p.isFoundIn s = false ∧ .unmatched p s = w := by
  unfold stringViolation?
  cases hlength : rule.length.violation? (units16 s) with
  | some violation => simp
  | none => simp [and_assoc]

theorem breaks_string_iff (h : ofOptions o = .ok rule) :
    rule.stringViolation? s = some w ↔ o.Breaks (.string s) w := by
  obtain ⟨-, hlength⟩ := ofOptions_eq_ok_iff.mp h
  rw [stringViolation?_eq_some_iff, LengthRule.violation?_eq_some_iff hlength,
    LengthRule.violation?_eq_none_iff hlength, ← Text.length_utf16]
  constructor
  · rintro (hbreaks | ⟨hadmits, p, hp, hfound, rfl⟩)
    · exact .length hbreaks
    · obtain ⟨source, hsource, hread⟩ := (mem_pattern_iff h).mp hp
      exact .pattern hadmits hsource hread hfound
  · intro hbreaks
    cases hbreaks with
    | type hv => cases hv
    | length hbreaks => exact .inl hbreaks
    | pattern hadmits hsource hread hfound =>
      exact .inr ⟨hadmits, _, (mem_pattern_iff h).mpr ⟨_, hsource, hread⟩, hfound, rfl⟩

/-- A rule for strings reports the first of what a value breaks. -/
theorem violation?_eq_some_iff (h : ofOptions o = .ok rule) :
    rule.violation? v = some w ↔ o.Breaks v w := by
  by_cases hv : v.isString = true
  · cases v with
    | string s => exact breaks_string_iff h
    | _ => cases hv
  · have hother : rule.violation? v = some (.wrongType Datatype.string.name v.datatype) := by
      cases v with
      | string s => exact (hv rfl).elim
      | _ => rfl
    rw [hother]
    constructor
    · intro hw
      cases hw
      exact .type (Bool.eq_false_iff.mpr hv)
    · intro hw
      cases hw with
      | type => rfl
      | length => exact (hv rfl).elim
      | pattern => exact (hv rfl).elim

end StringRule

/-- A pattern that is not found is reported of strings of admitted length only. -/
theorem StringOptions.Breaks.of_unmatched {o : StringOptions} {v : Value} {p : Pattern} {r : String}
    (h : o.Breaks v (.unmatched p r)) : v = .string r ∧
      LengthRule.Admits o.length o.minLength o.maxLength (utf16 r).length := by
  cases h with
  | length hbreaks => cases hbreaks
  | pattern hadmits => exact ⟨rfl, hadmits⟩

end Conform
