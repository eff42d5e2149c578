import Conform.Proofs.Saying
import Conform.Proofs.Shape
import Conform.Proofs.TextLengths

/-! Messages stay short however large the value is: every way of combining inspectors adds a prefix
that it alone decides on, so there is a bound for each description that holds for all values. -/

namespace Conform

namespace Report

theorem complaint?_ofViolation (x : Violation) :
    (ofViolation x).complaint? = some (x.kind, x.text) := rfl

theorem length_complaint_le {x : Violation} {bound : Nat} (h : x.text.length ≤ bound) :
    ∀ said ∈ (ofViolation x).complaint?, said.2.length ≤ bound := by
  intro said hsaid
  rw [complaint?_ofViolation] at hsaid
  cases hsaid
  exact h

end Report

namespace Saying

variable {s : Saying} {sayings : List Saying} {bound bound' : Nat}

/-- Whatever is said of a value that fits has no more characters than this. -/
def StaysWithin (bound : Nat) (s : Saying) : Prop :=
  ∀ v, v.Fits → ∀ said ∈ s v, said.2.length ≤ bound

theorem StaysWithin.mono (hle : bound ≤ bound') (h : s.StaysWithin bound) : s.StaysWithin bound' :=
  fun v hv said hsaid => Nat.le_trans (h v hv said hsaid) hle

theorem StaysWithin.all (h : ∀ s ∈ sayings, s.StaysWithin bound) :
    (all sayings).StaysWithin bound := by
  intro v hv said hsaid
  obtain ⟨s, hs, hsaid⟩ := List.exists_of_findSome?_eq_some hsaid
  exact h s hs v hv said hsaid

/-- A choice adds 30 characters to its last alternative, and has 33 to say if it has none. -/
theorem StaysWithin.any (h : ∀ s ∈ sayings, s.StaysWithin bound) :
    (any sayings).StaysWithin (bound + 33) := by
  intro v hv said hsaid
  unfold Saying.any at hsaid
  split at hsaid
  · cases hsaid
  · split at hsaid
    · cases hsaid
      have hempty : "expected at least one alternative".length = 33 := by decide
      rw [hempty]
      omega
    next last hlast =>
      obtain ⟨said', hsaid', rfl⟩ := Option.map_eq_some_iff.mp hsaid
      have hle := h last (List.mem_of_getLast? hlast) v hv said' hsaid'
      have hprefix : "no alternative matched, last: ".length = 30 := by decide
      simp only [String.length_append]
      omega

theorem StaysWithin.optional (h : s.StaysWithin bound) : s.optional.StaysWithin bound := by
  intro v hv said hsaid
  unfold Saying.optional at hsaid
  split at hsaid
  · cases hsaid
  · exact h v hv said hsaid

/-- No index reaches the bound of indices, and so there is room for its digits. -/
theorem StaysWithin.elements (h : s.StaysWithin bound) {start : Nat} {items : List Value}
    (hitems : ∀ w ∈ items, w.Fits) (hstart : start + items.length < indexBound) :
    ∀ said ∈ s.elements start items, said.2.length ≤ bound + 32 := by
  induction items generalizing start with
  | nil => nofun
  | cons w rest ih =>
    obtain ⟨hw, hrest⟩ := List.forall_mem_cons.mp hitems
    rw [List.length_cons] at hstart
    intro said hsaid
    rw [Saying.elements] at hsaid
    cases hfirst : s w with
    | none =>
      rw [hfirst] at hsaid
      exact ih hrest (by omega) said hsaid
    | some said' =>
      rw [hfirst] at hsaid
      cases hsaid
      have hle := h w hw said' hfirst
      have hdigits := Text.length_repr_le (show start < indexBound by omega)
      have hfor : "for index ".length = 10 := by decide
      have hcomma : ", ".length = 2 := by decide
      simp only [String.length_append]
      omega

/-- The prefix of a failing property adds its key and 15 characters. -/
theorem StaysWithin.properties {entries : List (String × Saying)} {width : Nat}
    (h : ∀ e ∈ entries, e.2.StaysWithin bound)
    (hkeys : ∀ key ∈ entries.map (·.1), key.length ≤ width) :
    (properties entries).StaysWithin (bound + width + 15) := by
  intro v hv said hsaid
  obtain ⟨e, he, hsaid⟩ := List.exists_of_findSome?_eq_some hsaid
  obtain ⟨said', hsaid', rfl⟩ := Option.map_eq_some_iff.mp hsaid
  have hle := h e he _ (hv.property e.1) said' hsaid'
  have hkey := hkeys e.1 (List.mem_map_of_mem he)
  have hfor : "for property ".length = 13 := by decide
  have hcomma : ", ".length = 2 := by decide
  simp only [String.length_append]
  omega

/-- A bare verdict says "invalid value", whatever the value is. -/
theorem StaysWithin.bare : s.bare.StaysWithin 13 := by
  intro v hv said hsaid
  obtain ⟨-, -, rfl⟩ := Option.map_eq_some_iff.mp hsaid
  decide

/-- An array adds the bound on what is said of its length, and the prefix of an element. -/
theorem StaysWithin.array {length : LengthRule} {element : Option Saying} {own : Nat}
    (hown : ∀ v x, v.Fits → Constraint.arrayViolation? length v = some x → x.text.length ≤ own)
    (h : ∀ s ∈ element, s.StaysWithin bound) :
    (array length element).StaysWithin (own + bound + 32) := by
  intro v hv said hsaid
  cases v with
  | array id items =>
    simp only [Saying.array] at hsaid
    cases hlength : length.violation? items.length with
    | some x =>
      rw [hlength] at hsaid
      cases hsaid
      have hle := hown _ x hv hlength
      change x.text.length ≤ _
      omega
    | none =>
      rw [hlength] at hsaid
      obtain ⟨s, hs, hsaid⟩ := Option.bind_eq_some_iff.mp hsaid
      have hitems : 0 + items.length < indexBound := by
        rw [Nat.zero_add]
        exact hv.length_lt rfl
      have hle := (h s hs).elements (fun w hw => hv.of_mem_contents hw) hitems said hsaid
      omega
  | _ =>
    have hle := hown _ _ hv rfl
    exact Report.length_complaint_le (by omega) said hsaid

theorem StaysWithin.object {options : ObjectOptions Saying} {own width : Nat}
    (hown : ∀ v x, v.Fits → Constraint.objectViolation? options.optional v = some x →
      x.text.length ≤ own)
    (h : ∀ e ∈ options.properties, e.2.StaysWithin bound)
    (hkeys : ∀ key ∈ options.properties.map (·.1), key.length ≤ width) :
    (object options).StaysWithin (own + bound + width + 15) := by
  intro v hv said hsaid
  unfold Saying.object at hsaid
  split at hsaid
  next htype =>
    split at hsaid
    next hnull =>
      split at hsaid
      · cases hsaid
      next hoptional =>
        have hx : Constraint.objectViolation? options.optional v = some .isNull := by
          simp [Constraint.objectViolation?, htype, hnull, hoptional]
        have hle := hown v _ hv hx
        exact Report.length_complaint_le (by omega) said hsaid
    next =>
      have hle := StaysWithin.properties h hkeys v hv said hsaid
      omega
  next htype =>
    have hx : Constraint.objectViolation? options.optional v =
        some (.wrongType Datatype.object.name v.datatype) := by
      simp [Constraint.objectViolation?, htype]
    have hle := hown v _ hv hx
    exact Report.length_complaint_le (by omega) said hsaid

end Saying

namespace Inspector

theorem saying_ofRule (find : Value → Option Violation) (v : Value) :
    (ofRule find).saying v = (find v).map fun x => (x.kind, x.text) := by
  change (Report.ofViolation? (find v)).complaint? = _
  cases find v with
  | none => rfl
  | some x => exact Report.complaint?_ofViolation x

theorem staysWithin_ofValidator (p : Validator) : (ofValidator p).saying.StaysWithin 13 := by
  intro v hv said hsaid
  change said ∈ (Report.ofBool (p.validate v).value).complaint? at hsaid
  cases hp : (p.validate v).value with
  | true =>
    rw [hp] at hsaid
    cases hsaid
  | false =>
    rw [hp] at hsaid
    cases hsaid
    decide

/-- A check that is built anew says that the value is invalid, or why it could not be built. -/
theorem exists_bound_rebuilt (build : Build Inspector) :
    ∃ bound, (rebuilt build).saying.StaysWithin bound := by
  rw [saying_rebuilt]
  cases build.result with
  | ok i => exact ⟨13, Saying.StaysWithin.bare⟩
  | error e =>
    refine ⟨e.text.length, fun v hv said hsaid => ?_⟩
    cases hsaid
    exact Nat.le_refl _

theorem exists_bound_arrayWith {min max : Option Nat} {length : LengthRule}
    {element : Option Inspector} (hlength : LengthRule.ofBounds none min max = .ok length)
    (h : ∀ i ∈ element, ∃ bound, i.saying.StaysWithin bound) :
    ∃ bound, (arrayWith length element).saying.StaysWithin bound := by
  have hcheck : (Constraint.array min max).check.result =
      .ok (Constraint.arrayViolation? length) := by
    rw [Constraint.check, Build.result_bind, LengthRule.result_compile, hlength]
    rfl
  obtain ⟨own, hown⟩ := Constraint.exists_length_text_le hcheck
  have helement : ∃ bound, ∀ s ∈ element.map saying, s.StaysWithin bound := by
    cases element with
    | none => exact ⟨0, by simp⟩
    | some i =>
      obtain ⟨bound, hbound⟩ := h i rfl
      exact ⟨bound, by simpa using hbound⟩
  obtain ⟨bound, hbound⟩ := helement
  rw [saying_arrayWith]
  exact ⟨own + bound + 32, Saying.StaysWithin.array hown hbound⟩

theorem exists_bound_object (options : ObjectOptions Inspector)
    (h : ∀ e ∈ options.properties, ∃ bound, e.2.saying.StaysWithin bound) :
    ∃ bound, (object options).saying.StaysWithin bound := by
  obtain ⟨own, hown⟩ :=
    Constraint.exists_length_text_le (c := .object options.optional) rfl
  obtain ⟨width, hwidth⟩ := exists_length_le (options.properties.map (·.1))
  obtain ⟨bound, hbound⟩ := exists_common_bound
    (fun bound (e : String × Inspector) => e.2.saying.StaysWithin bound) Saying.StaysWithin.mono h
  rw [saying_object]
  refine ⟨own + bound + width + 15, Saying.StaysWithin.object hown ?_ ?_⟩
  · exact List.forall_mem_map.mpr hbound
  · intro key hkey
    refine hwidth key ?_
    simpa [ObjectOptions.map] using hkey

end Inspector

namespace Constraint

variable {c : Constraint} {find : Value → Option Violation}

/-- A rule keeps the bound that holds for the texts of its violations. -/
theorem exists_bound (h : c.check.result = .ok find) :
    ∃ bound, (Inspector.ofRule find).saying.StaysWithin bound := by
  obtain ⟨bound, hbound⟩ := exists_length_text_le h
  refine ⟨bound, fun v hv said hsaid => ?_⟩
  rw [Inspector.saying_ofRule] at hsaid
  obtain ⟨x, hx, rfl⟩ := Option.map_eq_some_iff.mp hsaid
  exact hbound v x hv hx

/-- The inspector is made of the rule that the check is made of. -/
theorem exists_bound_of_rule {α : Type} {build : Build α} {f : α → Value → Option Violation}
    {i : Inspector} (hcheck : c.check = do return f (← build))
    (hi : (do return .ofRule (f (← build)) : Build Inspector).result = .ok i) :
    ∃ bound, i.saying.StaysWithin bound := by
  obtain ⟨r, hr, hi⟩ := Build.exists_of_result_bind hi
  cases hi
  refine exists_bound (c := c) ?_
  rw [hcheck, Build.result_bind, hr]
  rfl

end Constraint

namespace Checker

/-- Whether the inspector of a description says nothing in the words of a function it is given. -/
def ownsWords : Checker → Bool
  | attempt _ _ | reporting _ | within _ _ => false
  | _ => true

/-- One bound for the inspectors of several descriptions. -/
theorem exists_bound_inspectors {checkers : List Checker} {inspectors : List Inspector}
    (hinspectors : (Checker.inspectors checkers).result = .ok inspectors)
    (h : ∀ c ∈ checkers, ∀ i, c.inspector.result = .ok i → ∃ bound, i.saying.StaysWithin bound) :
    ∃ bound, ∀ s ∈ inspectors.map Inspector.saying, s.StaysWithin bound := by
  have heach : ∀ i ∈ inspectors, ∃ bound, i.saying.StaysWithin bound := by
    intro i hi
    obtain ⟨c, hc, hi⟩ := exists_of_mem_inspectors hinspectors i hi
    exact h c hc i hi
  obtain ⟨bound, hbound⟩ := exists_common_bound
    (fun bound (i : Inspector) => i.saying.StaysWithin bound) Saying.StaysWithin.mono heach
  exact ⟨bound, List.forall_mem_map.mpr hbound⟩

/-- For every description there is a bound on what its inspector says of any value. The induction is
on the parts: each way of combining them adds to their bounds what depends on the description. -/
theorem exists_bound (c : Checker) (hown : ∀ d ∈ c.nodes, d.ownsWords = true) {i : Inspector}
    (hi : c.inspector.result = .ok i) : ∃ bound, i.saying.StaysWithin bound := by
  induction c using induction_parts generalizing i with
  | step c ih =>
    replace ih : ∀ part ∈ c.parts, ∀ i, part.inspector.result = .ok i →
        ∃ bound, i.saying.StaysWithin bound := by
      intro part hpart i hi
      exact ih part hpart (fun d hd => hown d (nodes_subset_of_mem_parts hpart hd)) hi
    replace hown := hown c c.mem_nodes_self
    cases c with
    -- Rules first, then what says no more than that a value is invalid, then what has parts.
    | string options => exact Constraint.exists_bound_of_rule (c := .string options) rfl hi
    | stringDocument d =>
      obtain ⟨options, -, hi⟩ := Build.exists_of_result_bind hi
      exact Constraint.exists_bound_of_rule (c := .string options) rfl hi
    | number options => exact Constraint.exists_bound_of_rule (c := .number options) rfl hi
    | numberDocument d =>
      obtain ⟨options, -, hi⟩ := Build.exists_of_result_bind hi
      exact Constraint.exists_bound_of_rule (c := .number options) rfl hi
    | oneOfValue choices => exact Constraint.exists_bound_of_rule (c := .oneOfValue choices) rfl hi
    | instanceOf classes => exact Constraint.exists_bound_of_rule (c := .instanceOf classes) rfl hi
    | instanceOfValues candidates =>
      exact Constraint.exists_bound_of_rule (c := .instanceOfValues candidates) rfl hi
    | datatype name => exact Constraint.exists_bound_of_rule (c := .datatype name) rfl hi
    | oneOf choices =>
      cases hi
      exact Constraint.exists_bound (c := .oneOf choices) rfl
    | boolean =>
      cases hi
      exact Constraint.exists_bound (c := .boolean) rfl
    | function =>
      cases hi
      exact Constraint.exists_bound (c := .function) rfl
    | defined =>
      cases hi
      exact Constraint.exists_bound (c := .defined) rfl
    | pattern source =>
      obtain ⟨p, -, hi⟩ := Build.exists_of_result_bind hi
      cases hi
      exact ⟨13, Inspector.staysWithin_ofValidator p⟩
    | ofValidator c =>
      obtain ⟨p, -, hi⟩ := Build.exists_of_result_bind hi
      cases hi
      exact ⟨13, Inspector.staysWithin_ofValidator p⟩
    | toValidator c =>
      obtain ⟨j, -, hi⟩ := Build.exists_of_result_bind hi
      cases hi
      exact ⟨13, Inspector.staysWithin_ofValidator j.toValidator⟩
    | custom accepts =>
      cases hi
      exact ⟨13, Inspector.staysWithin_ofValidator _⟩
    | probe name accepts =>
      cases hi
      exact ⟨13, Inspector.staysWithin_ofValidator _⟩
    | fallible c =>
      cases hi
      exact Inspector.exists_bound_rebuilt c.inspector
    | all checkers =>
      obtain ⟨inspectors, his, hi⟩ := Build.exists_of_result_bind hi
      cases hi
      obtain ⟨bound, hbound⟩ := exists_bound_inspectors his ih
      rw [Inspector.saying_all]
      exact ⟨bound, Saying.StaysWithin.all hbound⟩
    | any checkers =>
      obtain ⟨inspectors, his, hi⟩ := Build.exists_of_result_bind hi
      cases hi
      obtain ⟨bound, hbound⟩ := exists_bound_inspectors his ih
      rw [Inspector.saying_any]
      exact ⟨bound + 33, Saying.StaysWithin.any hbound⟩
    | optional c =>
      obtain ⟨j, hj, hi⟩ := Build.exists_of_result_bind hi
      cases hi
      obtain ⟨bound, hbound⟩ := ih c List.mem_cons_self j hj
      rw [Inspector.saying_optional]
      exact ⟨bound, hbound.optional⟩
    | arrayOf c =>
      obtain ⟨j, hj, hi⟩ := Build.exists_of_result_bind hi
      cases hi
      have hlength : LengthRule.ofBounds none none none = .ok .unbounded := rfl
      refine Inspector.exists_bound_arrayWith hlength fun k hk => ?_
      cases hk
      exact ih c List.mem_cons_self j hj
    | array element min max =>
      obtain ⟨element', helement, hi⟩ := Build.exists_of_result_bind hi
      obtain ⟨length, hlength, hi⟩ := Build.exists_of_result_bind hi
      cases hi
      rw [LengthRule.result_compile] at hlength
      refine Inspector.exists_bound_arrayWith hlength fun j hj => ?_
      obtain ⟨d, hd, hj⟩ := exists_of_mem_inspector? helement j hj
      exact ih d (Option.mem_toList.mpr hd) j hj
    | object nullable properties =>
      obtain ⟨entries, hentries, hi⟩ := Build.exists_of_result_bind hi
      cases hi
      refine Inspector.exists_bound_object _ fun e he => ?_
      rw [ObjectOptions.ofList_eq] at he
      obtain ⟨p, hp, -, hpe⟩ :=
        exists_of_mem_inspectorEntries hentries e (Entries.mem_of_mem_ofList he)
      exact ih p.2 (List.mem_map_of_mem hp) e.2 hpe
    | attempt _ _ | reporting _ | within _ _ => cases hown

/-- Messages stay short however large the value is. A value is described by a preview of its text,
and a text without a match is repeated as one, cut before its characters are escaped; and for every
description of an inspector that fails in no words but the library's there is one bound on the
messages about all values. -/
theorem messages_stay_short :
    (∀ v : Value, v.describe.length ≤ Text.previewLimit + 3) ∧
      (∀ (p : Pattern) (s : String), ∃ echo,
        (Violation.unmatched p s).text = "expected pattern " ++ p.text ++ ", received " ++ echo ∧
          echo = Text.quoted (Text.preview s Text.previewLimit) ∧
          echo.length ≤ 6 * Text.previewLimit + 5) ∧
      ∀ c : Checker, (∀ d ∈ c.nodes, d.ownsWords = true) →
        ∃ bound, ∀ i, c.inspector.result = .ok i →
          ∀ v : Value, v.Fits → (i.inspect v).value.passed = false →
            (i.inspect v).value.message.text.length ≤ bound := by
  refine ⟨Value.length_describe_le, fun p s => ?_, fun c hown => ?_⟩
  · exact ⟨_, rfl, rfl, Text.length_quoted_preview_le s Text.previewLimit⟩
  · cases hresult : c.inspector.result with
    | error e => exact ⟨0, nofun⟩
    | ok i =>
      obtain ⟨bound, hbound⟩ := c.exists_bound hown hresult
      refine ⟨bound, fun j hj v hv hfail => ?_⟩
      cases hj
      rw [Inspector.value_inspect] at hfail ⊢
      cases hreport : (i.run v).value with
      | pass =>
        rw [hreport] at hfail
        cases hfail
      | fail kind message =>
        have hsaid : i.saying v = some (kind, message.text) := by
          rw [Inspector.saying, hreport]
          rfl
        exact hbound v hv _ hsaid

/-- Arrays of one string, of any length, in which null was expected. -/
theorem messages_stay_short_strings :
    ∃ i bound, (arrayOf (.oneOf [.null])).inspector.result = .ok i ∧
      ∀ s, Text.units16 s < indexBound →
        (i.inspect (.array 0 [.string s])).value.passed = false ∧
          (i.inspect (.array 0 [.string s])).value.message.text.length ≤ bound := by
  let i := Inspector.arrayOf (.oneOf [.null])
  have hresult : (arrayOf (.oneOf [.null])).inspector.result = .ok i := rfl
  have hown : ∀ d ∈ (arrayOf (.oneOf [.null])).nodes, d.ownsWords = true := by
    simp [nodes, ownsWords]
  obtain ⟨bound, hbound⟩ := messages_stay_short.2.2 _ hown
  refine ⟨i, bound, hresult, fun s hs => ?_⟩
  have hstring : (Value.string s).Fits := by
    refine .intro (fun n hn => ?_) nofun
    cases hn
    rwa [Text.length_utf16]
  have hfits : (Value.array 0 [.string s]).Fits := by
    refine .intro (fun n hn => ?_) (List.forall_mem_singleton.mpr hstring)
    cases hn
    change 1 < indexBound
    decide
  have hfails : (i.inspect (.array 0 [.string s])).value.passed = false := rfl
  exact ⟨hfails, hbound i hresult _ hfits hfails⟩

end Checker

end Conform
