import Conform.Proofs.Decisions
import Conform.Proofs.StringBounds

/-! Options as the conjunction of their fields: what is built from options passes what has their
type and is passed by everything that is built from one of the fields that are set. -/

namespace Conform

variable {α β ω : Type}

/-- Options with one of the fields that are set. -/
inductive StringOptions.IsField (o : StringOptions) : StringOptions → Prop where
  | pattern {source : String} : source ∈ o.pattern → IsField o ⟨some source, .none, .none, .none⟩
  | length {n : Nat} : n ∈ o.length → IsField o ⟨.none, some n, .none, .none⟩
  | minLength {n : Nat} : n ∈ o.minLength → IsField o ⟨.none, .none, some n, .none⟩
  | maxLength {n : Nat} : n ∈ o.maxLength → IsField o ⟨.none, .none, .none, some n⟩

/-- Options with one of the fields that are set. The demand for an integer is set if it is made. -/
inductive NumberOptions.IsField (o : NumberOptions) : NumberOptions → Prop where
  | min {a : Number} : a ∈ o.min → IsField o ⟨some a, .none, false⟩
  | max {a : Number} : a ∈ o.max → IsField o ⟨.none, some a, false⟩
  | integer : o.integer = true → IsField o ⟨.none, .none, true⟩

/-- Options with one of the fields that are set. -/
inductive ArrayOptions.IsField (o : ArrayOptions α) : ArrayOptions α → Prop where
  | element {c : α} : c ∈ o.element → IsField o ⟨some c, .none, .none⟩
  | minLength {n : Nat} : n ∈ o.minLength → IsField o ⟨.none, some n, .none⟩
  | maxLength {n : Nat} : n ∈ o.maxLength → IsField o ⟨.none, .none, some n⟩

/-- What is built from options passes the conjunction of their fields, from each of which something
can be built as well. -/
structure Build.IsConjunction (build : ω → Build α) (passes : α → Value → Prop)
    (hasType : Value → Bool) (isField : ω → ω → Prop) : Prop where
  builds : ∀ {o c}, (build o).result = .ok c → ∀ field, isField o field →
    ∃ d, (build field).result = .ok d
  passes_iff : ∀ {o c}, (build o).result = .ok c → ∀ v, passes c v ↔
    hasType v = true ∧ ∀ field d, isField o field → (build field).result = .ok d → passes d v

namespace Build

variable {build : ω → Build α} {passes : α → Value → Prop} {feasible : ω → Prop}
  {read? : Value → Option β} {admits : ω → β → Prop} {isField : ω → ω → Prop}

/-- It is enough that options admit the conjunction of their fields. -/
theorem Decides.isConjunction (h : Decides build passes feasible read? admits)
    (hfeasible : ∀ {o field}, feasible o → isField o field → feasible field)
    (hadmits : ∀ o x, admits o x ↔ ∀ field, isField o field → admits field x) :
    IsConjunction build passes (fun v => (read? v).isSome) isField := by
  have hbuilds {o c field} (hc : (build o).result = .ok c) (hfield : isField o field) :
      ∃ d, (build field).result = .ok d :=
    (h.exists_iff field).mpr (hfeasible ((h.exists_iff o).mp ⟨c, hc⟩) hfield)
  refine ⟨fun hc field => hbuilds hc, fun {o c} hc v => ?_⟩
  rw [h.passes_iff hc]
  constructor
  · rintro ⟨x, hx, hadmitted⟩
    refine ⟨Option.isSome_iff_exists.mpr ⟨x, hx⟩, fun field d hfield hd => ?_⟩
    exact (h.passes_iff hd v).mpr ⟨x, hx, (hadmits o x).mp hadmitted field hfield⟩
  · rintro ⟨htype, hpasses⟩
    obtain ⟨x, hx⟩ := Option.isSome_iff_exists.mp htype
    refine ⟨x, hx, (hadmits o x).mpr fun field hfield => ?_⟩
    obtain ⟨d, hd⟩ := hbuilds hc hfield
    obtain ⟨y, hy, hadmitted⟩ := (h.passes_iff hd v).mp (hpasses field d hfield hd)
    cases Option.some.inj (hx.symm.trans hy)
    exact hadmitted

end Build

namespace LengthRule.Admits

variable {length min max : Option Nat} {n a : Nat}

theorem unset : Admits none none none n := ⟨nofun, nofun, nofun⟩

/-- What options admit is admitted by each of their bounds alone. -/
theorem onlyLength (h : Admits length min max n) (ha : a ∈ length) :
    Admits (some a) none none n :=
  ⟨fun c hc => h.exactly c (Option.mem_some.mp hc ▸ ha), nofun, nofun⟩

theorem onlyMin (h : Admits length min max n) (ha : a ∈ min) : Admits none (some a) none n :=
  ⟨nofun, fun c hc => h.above c (Option.mem_some.mp hc ▸ ha), nofun⟩

theorem onlyMax (h : Admits length min max n) (ha : a ∈ max) : Admits none none (some a) n :=
  ⟨nofun, nofun, fun c hc => h.below c (Option.mem_some.mp hc ▸ ha)⟩

end LengthRule.Admits

namespace StringOptions

variable {o field : StringOptions}

/-- A field of options that make a checker makes one of its own. -/
theorem Feasible.of_isField (h : o.Feasible) (hfield : o.IsField field) : field.Feasible := by
  obtain ⟨⟨n, hn⟩, hpattern⟩ := h
  cases hfield with
  | pattern hsource => exact ⟨⟨n, .unset⟩, fun _ hs => hpattern _ (Option.mem_some.mp hs ▸ hsource)⟩
  | length ha => exact ⟨⟨n, hn.onlyLength ha⟩, nofun⟩
  | minLength ha => exact ⟨⟨n, hn.onlyMin ha⟩, nofun⟩
  | maxLength ha => exact ⟨⟨n, hn.onlyMax ha⟩, nofun⟩

/-- A string is admitted by options just if each of their fields admits it. -/
theorem admits_iff_fields (o : StringOptions) (s : String) :
    o.Admits s ↔ ∀ field, o.IsField field → field.Admits s := by
  constructor
  · intro h field hfield
    cases hfield with
    | pattern hsource => exact ⟨.unset, fun _ hs => h.pattern _ (Option.mem_some.mp hs ▸ hsource)⟩
    | length ha => exact ⟨h.length.onlyLength ha, nofun⟩
    | minLength ha => exact ⟨h.length.onlyMin ha, nofun⟩
    | maxLength ha => exact ⟨h.length.onlyMax ha, nofun⟩
  · intro h
    refine ⟨⟨fun a ha => ?_, fun a ha => ?_, fun a ha => ?_⟩, fun source hsource => ?_⟩
    · exact (h _ (.length ha)).length.exactly a rfl
    · exact (h _ (.minLength ha)).length.above a rfl
    · exact (h _ (.maxLength ha)).length.below a rfl
    · exact (h _ (.pattern hsource)).pattern source rfl

end StringOptions

namespace NumberOptions

variable {o field : NumberOptions}

theorem Ordered.of_isField (h : o.Ordered) (hfield : o.IsField field) : field.Ordered := by
  cases hfield with
  | min ha => exact ⟨fun _ hc => h.min _ (Option.mem_some.mp hc ▸ ha), nofun, nofun⟩
  | max ha => exact ⟨nofun, fun _ hc => h.max _ (Option.mem_some.mp hc ▸ ha), nofun⟩
  | integer => exact ⟨nofun, nofun, nofun⟩

theorem admits_iff_fields (o : NumberOptions) (n : Number) :
    o.Admits n ↔ ∀ field, o.IsField field → field.Admits n := by
  constructor
  · intro h field hfield
    cases hfield with
    | min ha => exact ⟨nofun, fun _ hc => h.above _ (Option.mem_some.mp hc ▸ ha), nofun⟩
    | max ha => exact ⟨nofun, nofun, fun _ hc => h.below _ (Option.mem_some.mp hc ▸ ha)⟩
    | integer hinteger => exact ⟨fun _ => h.integral hinteger, nofun, nofun⟩
  · intro h
    refine ⟨fun hinteger => ?_, fun a ha => ?_, fun a ha => ?_⟩
    · exact (h _ (.integer hinteger)).integral rfl
    · exact (h _ (.min ha)).above a rfl
    · exact (h _ (.max ha)).below a rfl

end NumberOptions

namespace ArrayOptions

variable {o field : ArrayOptions α} {passes : α → Value → Prop}

theorem Feasible.of_isField (h : o.Feasible) (hfield : o.IsField field) : field.Feasible := by
  obtain ⟨n, hn⟩ := h
  cases hfield with
  | element _ => exact ⟨n, .unset⟩
  | minLength ha => exact ⟨n, hn.onlyMin ha⟩
  | maxLength ha => exact ⟨n, hn.onlyMax ha⟩

theorem admits_iff_fields (o : ArrayOptions α) (items : List Value) :
    o.Admits passes items ↔ ∀ field, o.IsField field → field.Admits passes items := by
  constructor
  · intro h field hfield
    cases hfield with
    | element hc => exact ⟨.unset, fun _ hd => h.element _ (Option.mem_some.mp hd ▸ hc)⟩
    | minLength ha => exact ⟨h.length.onlyMin ha, nofun⟩
    | maxLength ha => exact ⟨h.length.onlyMax ha, nofun⟩
  · intro h
    refine ⟨⟨nofun, fun a ha => ?_, fun a ha => ?_⟩, fun c hc => ?_⟩
    · exact (h _ (.minLength ha)).length.above a rfl
    · exact (h _ (.maxLength ha)).length.below a rfl
    · exact (h _ (.element hc)).element c rfl

end ArrayOptions

/-- A pattern alone is built like options that have no more than a pattern. -/
theorem Validator.pattern_eq_string (source : String) :
    pattern source = string ⟨some source, none, none, none⟩ := by
  rw [pattern, string, StringRule.compilePattern_eq, StringRule.compile_eq,
    StringRule.ofOptions_onlyPattern]

/-- In both modes options mean the conjunction of their fields, and a pattern alone is the option of
that name. Of a string the length that counts is that in units of UTF-16, from which its characters
can be read back, and a pattern is reported only of strings of admitted length. -/
theorem options_mean_their_fields :
    (Build.IsConjunction Validator.string Validator.Passes Value.isString StringOptions.IsField ∧
      Build.IsConjunction Inspector.string Inspector.Passes Value.isString StringOptions.IsField) ∧
    (Build.IsConjunction Validator.number Validator.Passes Value.isNumber NumberOptions.IsField ∧
      Build.IsConjunction Inspector.number Inspector.Passes Value.isNumber NumberOptions.IsField) ∧
    (Build.IsConjunction Validator.array Validator.Passes Value.isArray ArrayOptions.IsField ∧
      Build.IsConjunction Inspector.array Inspector.Passes Value.isArray ArrayOptions.IsField) ∧
    (∀ source, Validator.pattern source = Validator.string ⟨some source, none, none, none⟩) ∧
    (∀ s, Text.codes (Text.utf16 s) = s.toList.map Char.toNat) ∧
    ∀ o rule, (StringRule.compile o).result = .ok rule →
      (∀ v w, rule.violation? v = some w ↔ o.Breaks v w) ∧
      ∀ v p r, rule.violation? v = some (.unmatched p r) → v = .string r ∧
        LengthRule.Admits o.length o.minLength o.maxLength (Text.utf16 r).length := by
  refine ⟨⟨?_, ?_⟩, ⟨?_, ?_⟩, ⟨?_, ?_⟩, Validator.pattern_eq_string, Text.codes_utf16,
    fun o rule h => ?_⟩
  · exact Validator.string_decides.isConjunction .of_isField StringOptions.admits_iff_fields
  · exact Inspector.string_decides.isConjunction .of_isField StringOptions.admits_iff_fields
  · exact Validator.number_decides.isConjunction .of_isField NumberOptions.admits_iff_fields
  · exact Inspector.number_decides.isConjunction .of_isField NumberOptions.admits_iff_fields
  · exact Validator.array_decides.isConjunction .of_isField ArrayOptions.admits_iff_fields
  · exact Inspector.array_decides.isConjunction .of_isField ArrayOptions.admits_iff_fields
  · rw [StringRule.result_compile] at h
    refine ⟨fun v w => StringRule.violation?_eq_some_iff h, fun v p r hv => ?_⟩
    exact ((StringRule.violation?_eq_some_iff h).mp hv).of_unmatched

/-- Two or three units with a "b" among them. -/
def shortWithB : StringOptions := ⟨some "b", none, some 2, some 3⟩

/-- One character of two units is long enough, and is reported for the pattern. -/
theorem options_mean_their_fields_shortWithB : ∃ p i rule b,
    (Validator.string shortWithB).result = .ok p ∧ (Inspector.string shortWithB).result = .ok i ∧
    (StringRule.compile shortWithB).result = .ok rule ∧
    (∀ v, p.Passes v ↔ v.isString = true ∧ ∀ field d, shortWithB.IsField field →
      (Validator.string field).result = .ok d → d.Passes v) ∧
    (∀ v, i.Passes v ↔ v.isString = true ∧ ∀ field d, shortWithB.IsField field →
      (Inspector.string field).result = .ok d → d.Passes v) ∧
    rule.violation? (.string "😎") = some (.unmatched b "😎") ∧
    LengthRule.Admits none (some 2) (some 3) (Text.utf16 "😎").length := by
  have hp : ∃ p, (Validator.string shortWithB).result = .ok p := ⟨_, rfl⟩
  have hi : ∃ i, (Inspector.string shortWithB).result = .ok i := ⟨_, rfl⟩
  have hrule : ∃ rule b, (StringRule.compile shortWithB).result = .ok rule ∧
      rule.violation? (.string "😎") = some (.unmatched b "😎") := ⟨_, _, rfl, rfl⟩
  obtain ⟨p, hp⟩ := hp
  obtain ⟨i, hi⟩ := hi
  obtain ⟨rule, b, hrule, hunmatched⟩ := hrule
  obtain ⟨⟨hvalidator, hinspector⟩, -, -, -, -, hstring⟩ := options_mean_their_fields
  exact ⟨p, i, rule, b, hp, hi, hrule, hvalidator.passes_iff hp, hinspector.passes_iff hi,
    hunmatched, ((hstring _ rule hrule).2 _ b _ hunmatched).2⟩

end Conform
