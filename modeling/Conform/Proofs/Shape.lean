import Conform.Proofs.Likeness
import Conform.Proofs.Meaning
import Conform.Proofs.Nodes

/-! Shapes: checkers that see of a value its variant, the contents of simple types, its elements and
the properties that they declare. They say the same of values that are alike in these. -/

namespace Conform

namespace Inspector

variable {R : Value → Value → Prop} {keys : List String} {i : Inspector}

theorem blind_string (hR : Value.Likeness R keys) {options : StringOptions}
    (h : (string options).result = .ok i) : i.Blind R := by
  obtain ⟨rule, -, hi⟩ := Build.exists_of_result_bind h
  cases hi
  refine blind_ofRule fun v w hvw => ?_
  rw [(hR.resembles hvw).stringViolation_eq]

/-- The rule on numbers says the same of values that resemble each other. -/
theorem complaint?_number {v w : Value} (h : v.Resembles w) (rule : NumberRule) :
    (Report.ofViolation? (rule.violation? v)).complaint? =
      (Report.ofViolation? (rule.violation? w)).complaint? := by
  cases h with
  | number h => exact rule.complaint?_numberViolation h
  | _ => rfl

theorem blind_number (hR : Value.Likeness R keys) {options : NumberOptions}
    (h : (number options).result = .ok i) : i.Blind R := by
  obtain ⟨rule, -, hi⟩ := Build.exists_of_result_bind h
  cases hi
  exact blind_ofRule fun v w hvw => complaint?_number (hR.resembles hvw) rule

theorem blind_pattern (hR : Value.Likeness R keys) {p : Validator} {source : String}
    (h : (Validator.pattern source).result = .ok p) : (ofValidator p).Blind R := by
  obtain ⟨rule, -, hp⟩ := Build.exists_of_result_bind h
  cases hp
  refine blind_ofValidator fun v w hvw => ?_
  change (rule.violation? v).isNone = (rule.violation? w).isNone
  rw [(hR.resembles hvw).stringViolation_eq]

theorem blind_ofType (hR : Value.Likeness R keys) {isOf : Value → Bool}
    (hisOf : ∀ {v w : Value}, v.Resembles w → isOf v = isOf w) (name : String) :
    (ofRule (typeViolation? name isOf)).Blind R := by
  refine blind_ofRule fun v w hvw => ?_
  rw [typeViolation?, typeViolation?, hisOf (hR.resembles hvw), (hR.resembles hvw).datatype_eq]

theorem blind_datatype (hR : Value.Likeness R keys) {name : String}
    (h : (datatype name).result = .ok i) : i.Blind R := by
  obtain ⟨rule, -, hi⟩ := Build.exists_of_result_bind h
  cases hi
  refine blind_ofRule fun v w hvw => ?_
  rw [(hR.resembles hvw).datatypeViolation_eq]

end Inspector

namespace Checker

/-- Whether a description looks, on its own account, at no more than the variant of a value, the
contents of simple types, its elements and the properties that it declares. -/
def isShape : Checker → Bool
  | oneOf _ | oneOfValue _ | instanceOf _ | instanceOfValues _ | custom _ | probe _ _ | attempt _ _
  | reporting _ => false
  | _ => true

variable {R : Value → Value → Prop} {keys : List String}

theorem exists_of_mem_inspectors {checkers : List Checker} {inspectors : List Inspector}
    (h : (Checker.inspectors checkers).result = .ok inspectors) :
    ∀ i ∈ inspectors, ∃ c ∈ checkers, c.inspector.result = .ok i := by
  induction checkers generalizing inspectors with
  | nil =>
    cases h
    simp
  | cons c rest ih =>
    obtain ⟨i, hi, h⟩ := Build.exists_of_result_bind h
    obtain ⟨is, his, h⟩ := Build.exists_of_result_bind h
    cases h
    intro j hj
    rcases List.mem_cons.mp hj with rfl | hj
    · exact ⟨c, List.mem_cons_self, hi⟩
    · obtain ⟨d, hd, hj⟩ := ih his j hj
      exact ⟨d, List.mem_cons_of_mem c hd, hj⟩

theorem exists_of_mem_inspector? {element : Option Checker} {inspector : Option Inspector}
    (h : (Checker.inspector? element).result = .ok inspector) :
    ∀ i ∈ inspector, ∃ c ∈ element, c.inspector.result = .ok i := by
  cases element with
  | none =>
    cases h
    simp
  | some c =>
    obtain ⟨i, hi, h⟩ := Build.exists_of_result_bind h
    cases h
    intro j hj
    cases hj
    exact ⟨c, rfl, hi⟩

theorem exists_of_mem_inspectorEntries {properties : List (String × Checker)}
    {entries : List (String × Inspector)}
    (h : (Checker.inspectorEntries properties).result = .ok entries) :
    ∀ e ∈ entries, ∃ p ∈ properties, p.1 = e.1 ∧ p.2.inspector.result = .ok e.2 := by
  induction properties generalizing entries with
  | nil =>
    cases h
    simp
  | cons p rest ih =>
    obtain ⟨i, hi, h⟩ := Build.exists_of_result_bind h
    obtain ⟨es, hes, h⟩ := Build.exists_of_result_bind h
    cases h
    intro e he
    rcases List.mem_cons.mp he with rfl | he
    · exact ⟨p, List.mem_cons_self, rfl, hi⟩
    · obtain ⟨q, hq, he⟩ := ih hes e he
      exact ⟨q, List.mem_cons_of_mem p hq, he⟩

/-- A description with a validator has an inspector that comes to the same. -/
theorem exists_inspector_of_validator {c : Checker} {p : Validator}
    (h : c.validator.result = .ok p) : ∃ i, c.inspector.result = .ok i ∧ i.outcome = p.outcome :=
  (inspector_means c).exists_of_meaning ((validator_means c).meaning_of_ok h)

/-- A checker says the same of values that are alike if so do those of its nodes that are no shapes.
The induction is on the parts; every way of combining them keeps what they do not tell apart. -/
theorem blind_of_nodes (hR : Value.Likeness R keys) (c : Checker) (hkeys : c.keys ⊆ keys)
    (hleaf : ∀ d ∈ c.nodes, d.isShape = false → ∀ i, d.inspector.result = .ok i → i.Blind R)
    {i : Inspector} (hi : c.inspector.result = .ok i) : i.Blind R := by
  induction c using induction_parts generalizing i with
  | step c ih =>
    replace ih : ∀ part ∈ c.parts, ∀ i, part.inspector.result = .ok i → i.Blind R := by
      intro part hpart i hi
      exact ih part hpart (List.Subset.trans (keys_subset_of_mem_parts hpart) hkeys)
        (fun d hd => hleaf d (nodes_subset_of_mem_parts hpart hd)) hi
    replace hleaf : c.isShape = false → i.Blind R := fun h => hleaf c c.mem_nodes_self h i hi
    replace hkeys : c.ownKeys ⊆ keys := List.Subset.trans c.ownKeys_subset_keys hkeys
    cases c with
    -- A node that is no shape is blind by hypothesis; all others see what their parts see.
    | string options => exact Inspector.blind_string hR hi
    | stringDocument d =>
      obtain ⟨options, -, hi⟩ := Build.exists_of_result_bind hi
      exact Inspector.blind_string hR hi
    | number options => exact Inspector.blind_number hR hi
    | numberDocument d =>
      obtain ⟨options, -, hi⟩ := Build.exists_of_result_bind hi
      exact Inspector.blind_number hR hi
    | pattern source =>
      obtain ⟨p, hp, hi⟩ := Build.exists_of_result_bind hi
      cases hi
      exact Inspector.blind_pattern hR hp
    | boolean =>
      cases hi
      exact Inspector.blind_ofType hR Value.Resembles.isBoolean_eq _
    | function =>
      cases hi
      exact Inspector.blind_ofType hR Value.Resembles.isFunction_eq _
    | defined =>
      cases hi
      exact Inspector.blind_ofType hR Value.Resembles.isDefined_eq _
    | datatype name => exact Inspector.blind_datatype hR hi
    | all checkers =>
      obtain ⟨inspectors, his, hi⟩ := Build.exists_of_result_bind hi
      cases hi
      refine Inspector.blind_all fun j hj => ?_
      obtain ⟨d, hd, hj⟩ := exists_of_mem_inspectors his j hj
      exact ih d hd j hj
    | any checkers =>
      obtain ⟨inspectors, his, hi⟩ := Build.exists_of_result_bind hi
      cases hi
      refine Inspector.blind_any fun j hj => ?_
      obtain ⟨d, hd, hj⟩ := exists_of_mem_inspectors his j hj
      exact ih d hd j hj
    | optional c =>
      obtain ⟨j, hj, hi⟩ := Build.exists_of_result_bind hi
      cases hi
      exact Inspector.blind_optional hR (ih c List.mem_cons_self j hj)
    | arrayOf c =>
      obtain ⟨j, hj, hi⟩ := Build.exists_of_result_bind hi
      cases hi
      refine Inspector.blind_arrayWith hR (fun k hk => ?_) _
      cases hk
      exact ih c List.mem_cons_self j hj
    | array element min max =>
      obtain ⟨element', helement, hi⟩ := Build.exists_of_result_bind hi
      obtain ⟨length, -, hi⟩ := Build.exists_of_result_bind hi
      cases hi
      refine Inspector.blind_arrayWith hR (fun j hj => ?_) length
      obtain ⟨d, hd, hj⟩ := exists_of_mem_inspector? helement j hj
      exact ih d (Option.mem_toList.mpr hd) j hj
    | object nullable properties =>
      obtain ⟨entries, hentries, hi⟩ := Build.exists_of_result_bind hi
      cases hi
      have hmem : ∀ e ∈ (ObjectOptions.ofList nullable entries).properties,
          ∃ p ∈ properties, p.1 = e.1 ∧ p.2.inspector.result = .ok e.2 := by
        intro e he
        rw [ObjectOptions.ofList_eq] at he
        exact exists_of_mem_inspectorEntries hentries e (Entries.mem_of_mem_ofList he)
      refine Inspector.blind_object hR (fun e he => ?_) fun e he => ?_
      · obtain ⟨p, hp, hkey, -⟩ := hmem e he
        exact hkeys (List.mem_map.mpr ⟨p, hp, hkey⟩)
      · obtain ⟨p, hp, -, he⟩ := hmem e he
        exact ih p.2 (List.mem_map_of_mem hp) e.2 he
    | ofValidator c =>
      obtain ⟨p, hp, hi⟩ := Build.exists_of_result_bind hi
      cases hi
      obtain ⟨j, hj, houtcome⟩ := exists_inspector_of_validator hp
      refine Inspector.blind_ofValidator fun v w hvw => ?_
      have hpassed := (ih c List.mem_cons_self j hj).passed_eq hvw
      have hv := congrArg Outcome.passed (congrFun houtcome v)
      have hw := congrArg Outcome.passed (congrFun houtcome w)
      exact hv.symm.trans (hpassed.trans hw)
    | toValidator c =>
      obtain ⟨j, hj, hi⟩ := Build.exists_of_result_bind hi
      cases hi
      refine Inspector.blind_ofValidator fun v w hvw => ?_
      change (j.check v).value = (j.check w).value
      rw [Inspector.value_check, Inspector.value_check]
      exact (ih c List.mem_cons_self j hj).passed_eq hvw
    | fallible c =>
      cases hi
      exact Inspector.blind_rebuilt (ih c List.mem_cons_self)
    | within c wrap =>
      obtain ⟨j, hj, hi⟩ := Build.exists_of_result_bind hi
      cases hi
      exact Inspector.blind_within (ih c List.mem_cons_self j hj) wrap
    | oneOf _ | oneOfValue _ | instanceOf _ | instanceOfValues _ | custom _ | probe _ _
    | attempt _ _ | reporting _ => exact hleaf rfl

end Checker

end Conform
