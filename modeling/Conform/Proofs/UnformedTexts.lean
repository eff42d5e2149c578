import Conform.Proofs.Builds
import Conform.Proofs.Calls
import Conform.Report.Pool

/-! Unformed texts: an inspection forms no text of a message, and the text of the report that it
comes to is put off unless the failure is the bare verdict of a check. -/

namespace Conform

namespace Report

/-- Whether the text of the report is there as soon as it is held in a pool. -/
def isEvaluatedIn (r : Report) (pool : Pool String) : Bool :=
  let (held, pool) := r.hold pool
  pool.isEvaluated held.message

theorem isEvaluatedIn_eq (r : Report) (pool : Pool String) :
    r.isEvaluatedIn pool = r.message.isReady := by
  cases r with
  | pass => rfl
  | fail kind message =>
    cases message with
    | fixed text => rfl
    | deferred text =>
      change ((pool.cells ++ [⟨some (.compute text), none⟩])[pool.cells.length]?.bind
        (·.value)).isSome = false
      rw [List.getElem?_concat_length]
      rfl

/-- To hold a report is not to read it. -/
theorem runs_hold (r : Report) (pool : Pool String) : (r.hold pool).2.runs = pool.runs := by
  cases r with
  | pass => rfl
  | fail kind message => cases message <;> rfl

theorem isReady_of_passed {r : Report} (h : r.passed = true) : r.message.isReady = true := by
  cases r with
  | pass => rfl
  | fail kind message => cases h

theorem isReady_within {r : Report} (h : r.passed = false) (wrap : String → String) :
    (r.within wrap).message.isReady = false := by
  cases r with
  | pass => cases h
  | fail kind message => rfl

end Report

namespace Inspector

/-- The inspectors that no other inspectors are part of. -/
inductive IsNative : Inspector → Prop where
  | rule (violation? : Value → Option Violation) : IsNative (ofRule violation?)
  | validator (p : Validator) : IsNative (ofValidator p)
  | fallible (check : Value → ExceptT String Recorded Bool) : IsNative (fallible check)

/-- The check that the inspector wraps leaves the event on record when it is given the value. -/
inductive Hears : Inspector → Value → Event → Prop where
  | validator {p : Validator} {w : Value} {e : Event} :
      e ∈ (p.validate w).events → Hears (ofValidator p) w e
  | fallible {check : Value → ExceptT String Recorded Bool} {w : Value} {e : Event} :
      e ∈ (check w).run.events → Hears (fallible check) w e

theorem IsNative.hears {i : Inspector} {w : Value} (h : i.IsNative)
    (hmem : .formatted ∈ (i.run w).events) : i.Hears w .formatted := by
  cases h with
  | rule violation? => cases hmem
  | validator p =>
    have hevents : ((ofValidator p).run w).events = (p.validate w).events := List.append_nil _
    exact .validator (hevents ▸ hmem)
  | fallible check =>
    rw [events_fallible, List.mem_append] at hmem
    refine .fallible (hmem.resolve_right ?_)
    split <;> simp

/-- The step leaves the message of a failure as it is. -/
def Step.KeepsMessage : Step → Prop
  | part _ | present => True
  | alternative _ | element _ | property _ => False

namespace Tree

variable {t node : Tree} {v place : Value} {steps : List Step}

/-- A text is formed in an inspection only by a check that a leaf wraps, given the value there. -/
theorem exists_hears (hnative : ∀ i, t.Contains (leaf i) → i.IsNative)
    (h : .formatted ∈ (t.inspector.inspect v).events) :
    ∃ i w, ⟨leaf i, w⟩ ∈ t.calls v ∧ i.Hears w .formatted := by
  rw [events_eq_calls, List.mem_flatMap] at h
  obtain ⟨c, hc, hmem⟩ := h
  have hown : .formatted ∈ c.own := by
    refine (List.mem_append.mp hmem).resolve_right ?_
    rw [Call.failure?]
    split <;> simp
  obtain ⟨u, w⟩ := c
  cases u with
  | leaf i => exact ⟨i, w, hc, (hnative i (Contains.of_mem_calls hc)).hears hown⟩
  | _ => cases hown

/-- A leaf that fails on the value with the bare verdict of the check that it wraps. -/
inductive IsVerdict : Tree → Value → Prop where
  | validator (p : Validator) (v : Value) : IsVerdict (leaf (ofValidator p)) v
  | fallible {check : Value → ExceptT String Recorded Bool} {v : Value} :
      (check v).run.value = .ok false → IsVerdict (leaf (fallible check)) v

theorem IsVerdict.isReady (h : t.IsVerdict v) (hfails : t.passes v = false) :
    (t.report v).message.isReady = true := by
  cases h with
  | validator p v =>
    change (Report.ofBool (p.validate v).value).passed = false at hfails
    change (Report.ofBool (p.validate v).value).message.isReady = true
    rw [Report.passed_ofBool] at hfails
    rw [hfails]
    rfl
  | @fallible check v hcheck =>
    change ((Inspector.fallible check).run v).value.message.isReady = true
    rw [value_fallible, hcheck]
    rfl

/-- Of a leaf that fails, the text is put off unless the failure is a bare verdict. -/
theorem isVerdict_of_leaf {i : Inspector} (hnative : i.IsNative)
    (hfails : (leaf i).passes v = false) (h : ((leaf i).report v).message.isReady = true) :
    (leaf i).IsVerdict v := by
  cases hnative with
  | rule violation? =>
    change (Report.ofViolation? (violation? v)).passed = false at hfails
    change (Report.ofViolation? (violation? v)).message.isReady = true at h
    cases hv : violation? v with
    | none =>
      rw [hv] at hfails
      cases hfails
    | some x =>
      rw [hv] at h
      cases h
  | validator p => exact .validator p v
  | fallible check =>
    change ((Inspector.fallible check).run v).value.passed = false at hfails
    change ((Inspector.fallible check).run v).value.message.isReady = true at h
    rw [value_fallible] at hfails h
    cases hcheck : (check v).run.value with
    | ok b =>
      rw [hcheck] at hfails
      rw [Report.passed_ofBool] at hfails
      exact .fallible (hcheck.trans (congrArg Except.ok hfails))
    | error text =>
      rw [hcheck] at h
      cases h

/-- Of any other node that fails on its own, the text is put off. -/
theorem isReady_of_complaint {complaint : ErrorKind × String} (hleaf : ∀ i, t ≠ leaf i)
    (h : t.complaint? v = some complaint) : (t.report v).message.isReady = false := by
  cases t with
  | leaf i => exact absurd rfl (hleaf i)
  | any alternatives =>
    cases alternatives with
    | nil => rfl
    | cons _ _ => cases h
  | array length element =>
    cases v with
    | array id items =>
      obtain ⟨x, hx, -⟩ := Option.map_eq_some_iff.mp h
      rw [report, inspector_array, arrayWith_of_violation hx]
      rfl
    | _ => rfl
  | object nullable properties =>
    simp only [complaint?] at h
    simp only [report, inspector_object, Inspector.object]
    by_cases htype : v.datatype = .object
    · rw [if_pos htype] at h ⊢
      cases hnull : v.isNull with
      | true =>
        cases nullable with
        | true => simp [hnull] at h
        | false => rfl
      | false => simp [hnull] at h
    · rw [if_neg htype]
      rfl
  | all _ | optional _ => cases h

theorem isReady_iff_isVerdict {complaint : ErrorKind × String}
    (hnative : ∀ i, t = leaf i → i.IsNative) (h : t.complaint? v = some complaint) :
    (t.report v).message.isReady = true ↔ t.IsVerdict v := by
  have hfails : t.passes v = false := (FailsAlong.here h).passes_eq_false
  refine ⟨fun hready => ?_, fun hverdict => hverdict.isReady hfails⟩
  by_cases hleaf : ∃ i, t = leaf i
  · obtain ⟨i, rfl⟩ := hleaf
    exact isVerdict_of_leaf (hnative i rfl) hfails hready
  · have hput : (t.report v).message.isReady = false :=
      isReady_of_complaint (fun i hi => hleaf ⟨i, hi⟩) h
    exact absurd hready (Bool.eq_false_iff.mp hput)

namespace FailsAlong

theorem contains (h : FailsAlong t v steps node place) : t.Contains node := by
  induction h with
  | here _ => exact .self _
  | part hfirst _ ih => exact .part hfirst.mem ih
  | alternative _ hlast _ ih => exact .part (by simp [parts, hlast]) ih
  | present _ _ ih => exact .part (List.mem_singleton_self _) ih
  | element _ _ _ ih => exact .part (List.mem_singleton_self _) ih
  | property _ hfirst _ ih => exact .part (List.mem_map_of_mem hfirst.mem) ih

/-- A text that is not put off has come from the node as it is. -/
theorem isReady_iff (h : FailsAlong t v steps node place) :
    (t.report v).message.isReady = true ↔
      (∀ step ∈ steps, step.KeepsMessage) ∧ (node.report place).message.isReady = true := by
  induction h with
  | here _ => simp
  | part hfirst _ ih =>
    rw [report_all hfirst, ih, List.forall_mem_cons, and_assoc]
    exact (and_iff_right trivial).symm
  | present hn _ ih =>
    rw [report_optional, hn, if_neg Bool.false_ne_true, ih, List.forall_mem_cons, and_assoc]
    exact (and_iff_right trivial).symm
  | alternative hfail hlast hrest ih =>
    rw [report_any hfail hlast, Report.isReady_within hrest.passes_eq_false, List.forall_mem_cons]
    exact ⟨nofun, fun h => h.1.1.elim⟩
  | element hlen hfirst hrest ih =>
    rw [report_array hlen hfirst, Report.isReady_within hrest.passes_eq_false, List.forall_mem_cons]
    exact ⟨nofun, fun h => h.1.1.elim⟩
  | property hobject hfirst hrest ih =>
    rw [report_object hobject hfirst, Report.isReady_within hrest.passes_eq_false,
      List.forall_mem_cons]
    exact ⟨nofun, fun h => h.1.1.elim⟩

end FailsAlong

/-- The text of a report is there if it passes, or if a bare verdict has come through as it is. -/
theorem isReady_report_iff (hnative : ∀ i, t.Contains (leaf i) → i.IsNative) :
    (t.report v).message.isReady = true ↔
      t.passes v = true ∨ ∃ trail : Trail t v, (∀ step ∈ trail.steps, step.KeepsMessage) ∧
        trail.node.IsVerdict trail.place := by
  have hiff (trail : Trail t v) : (t.report v).message.isReady = true ↔
      (∀ step ∈ trail.steps, step.KeepsMessage) ∧ trail.node.IsVerdict trail.place := by
    have hnode : ∀ i, trail.node = leaf i → i.IsNative := fun i hi =>
      hnative i (hi ▸ trail.failsAlong.contains)
    rw [trail.failsAlong.isReady_iff, isReady_iff_isVerdict hnode trail.complaint]
  cases hpasses : t.passes v with
  | true => exact iff_of_true (Report.isReady_of_passed hpasses) (.inl rfl)
  | false =>
    constructor
    · intro hready
      obtain ⟨trail⟩ := exists_trail hpasses
      exact .inr ⟨trail, (hiff trail).mp hready⟩
    · rintro (h | ⟨trail, htrail⟩)
      · cases h
      · exact (hiff trail).mpr htrail

/-- Without a reader no text is formed: an inspection by inspectors and checks that are built from
descriptions forms none, and one by others only what a check forms that one of the leaves wraps. To
hold the report forms none either, and its text is there only if it is no text of a failure, or a
bare verdict that no step on the way says anything of. -/
theorem inspection_forms_no_text (t : Tree) (v : Value)
    (hnative : ∀ i, t.Contains (leaf i) → i.IsNative) :
    (∀ c : Checker,
      (∀ p w, c.validator.result = .ok p → .formatted ∉ (p.validate w).events) ∧
      ∀ i w, c.inspector.result = .ok i →
        .formatted ∉ (i.inspect w).events ∧ .formatted ∉ (i.check w).events) ∧
    (.formatted ∈ (t.inspector.inspect v).events ∨ .formatted ∈ (t.inspector.check v).events →
      ∃ i w, ⟨leaf i, w⟩ ∈ t.calls v ∧ i.Hears w .formatted) ∧
    ∀ pool : Pool String,
      ((t.inspector.inspect v).value.hold pool).2.runs = pool.runs ∧
      ((t.inspector.inspect v).value.isEvaluatedIn pool = true ↔
        (t.inspector.inspect v).value.passed = true ∨
        ∃ trail : Trail t v, (∀ step ∈ trail.steps, step.KeepsMessage) ∧
          trail.node.IsVerdict trail.place) := by
  refine ⟨fun c => ⟨fun p w hp => ?_, fun i w hi => ?_⟩, ?_, fun pool => ⟨Report.runs_hold _ _, ?_⟩⟩
  · obtain ⟨-, horderly⟩ := c.validator_isOrderly.of_ok hp
    exact (horderly w).not_mem_formatted
  · obtain ⟨-, horderly⟩ := c.inspector_isOrderly.of_ok hi
    exact ⟨(horderly.inspect w).not_mem_formatted, (horderly.check w).not_mem_formatted⟩
  · rintro (h | h)
    · exact exists_hears hnative h
    · have hinspect : .formatted ∈ (t.inspector.inspect v).events := by
        rw [Inspector.events_inspect, ← events_check]
        exact List.mem_append_left _ h
      exact exists_hears hnative hinspect
  · rw [Report.isEvaluatedIn_eq, value_inspect]
    exact isReady_report_iff hnative

/-- A switch says whether it is on, in a truth value. -/
def switch : Tree :=
  all [leaf (.ofValidator (.ofPredicate Value.isObject)),
    object false [("on", leaf (.ofValidator (.ofPredicate Value.isBoolean)))]]

/-- Null is no switch, by the bare verdict of the first part. -/
theorem inspection_forms_no_text_switch :
    (∀ i, switch.Contains (leaf i) → i.IsNative) ∧
    (Checker.boolean.inspector.result = .ok .boolean ∧
      .formatted ∉ (boolean.inspect .null).events) ∧
    (.formatted ∈ (switch.inspector.inspect .null).events ∨
        .formatted ∈ (switch.inspector.check .null).events →
      ∃ i w, ⟨leaf i, w⟩ ∈ switch.calls .null ∧ i.Hears w .formatted) ∧
    (switch.inspector.inspect .null).value.isEvaluatedIn .empty = true ∧
    ∃ trail : Trail switch .null, (∀ step ∈ trail.steps, step.KeepsMessage) ∧
      trail.node.IsVerdict trail.place := by
  have hleaf (accepts : Value → Bool) : ∀ u,
      (leaf (.ofValidator (.ofPredicate accepts))).Contains u → ∀ i, u = leaf i → i.IsNative := by
    refine forall_contains_leaf fun i hi => ?_
    cases hi
    exact .validator _
  have hnative : ∀ u, switch.Contains u → ∀ i, u = leaf i → i.IsNative :=
    forall_contains nofun (List.forall_mem_cons.mpr ⟨hleaf Value.isObject,
      List.forall_mem_singleton.mpr
        (forall_contains nofun (List.forall_mem_singleton.mpr (hleaf Value.isBoolean)))⟩)
  obtain ⟨hbuilt, hevents, hready⟩ :=
    inspection_forms_no_text switch .null fun i hi => hnative _ hi i rfl
  have hevaluated : (switch.inspector.inspect .null).value.isEvaluatedIn .empty = true := by
    decide
  have htrail := ((hready .empty).2.mp hevaluated).resolve_left (by decide)
  exact ⟨fun i hi => hnative _ hi i rfl, ⟨rfl, ((hbuilt .boolean).2 _ .null rfl).1⟩, hevents,
    hevaluated, htrail⟩

example : (switch.report (.object 0 none [("on", .null)])).isEvaluatedIn .empty = false := by
  decide

end Tree

end Inspector

end Conform
