import Conform.Log
import Conform.Proofs.Calls
import Conform.Proofs.Outcome

/-! Failure events: what an inspection by a tree whose leaves log nothing leaves in the log. -/

namespace Conform

/-- What is logged of runs that log an entry each, or none. -/
theorem log_flatMap {α : Type} {items : List α} {events : α → List Event}
    {logged? : α → Option LogEntry} (h : ∀ x ∈ items, log (events x) = (logged? x).toList) :
    log (items.flatMap events) = items.filterMap logged? := by
  induction items with
  | nil => rfl
  | cons x rest ih =>
    obtain ⟨hx, hrest⟩ := List.forall_mem_cons.mp h
    rw [List.flatMap_cons, log_append, hx, ih hrest, List.filterMap_cons]
    cases logged? x <;> rfl

/-- The entry of a failing inspection. -/
def LogEntry.inspectionFailed (kind : ErrorKind) : LogEntry :=
  ⟨.trace, [("message", "inspection failed"), ("kind", kind.name)]⟩

namespace Inspector

/-- Nothing that the inspector does itself is logged. -/
def IsQuiet (i : Inspector) : Prop := ∀ v, log (i.run v).events = []

theorem isQuiet_ofRule (violation? : Value → Option Violation) : (ofRule violation?).IsQuiet :=
  fun _ => rfl

theorem isQuiet_ofValidator {p : Validator} (h : ∀ v, log (p.validate v).events = []) :
    (ofValidator p).IsQuiet := by
  intro v
  rw [ofValidator, Recorded.events_bind, log_append, h]
  rfl

theorem isQuiet_probe (name : String) (accepts : Value → Bool) :
    (ofValidator (.probe name accepts)).IsQuiet :=
  isQuiet_ofValidator fun _ => rfl

namespace Tree

/-- There is no choice between alternatives anywhere in the tree. -/
def IsChoiceFree (t : Tree) : Prop := ∀ alternatives, ¬ t.Contains (any alternatives)

variable {t : Tree} {v : Value} {c : Call}

theorem IsChoiceFree.part {part : Tree} (h : t.IsChoiceFree) (hpart : part ∈ t.parts) :
    part.IsChoiceFree :=
  fun alternatives hu => h alternatives (.part hpart hu)

/-- What a quiet leaf records on its own account is not logged. -/
theorem Call.log_own (hquiet : ∀ i, c.tree = leaf i → i.IsQuiet) : log c.own = [] := by
  obtain ⟨t, v⟩ := c
  cases t with
  | leaf i => exact hquiet i rfl v
  | _ => rfl

/-- The entry of an inspection, if it fails. -/
def Call.logged? (c : Call) : Option LogEntry :=
  if c.tree.passes c.value then none else some (.inspectionFailed (c.tree.report c.value).kind)

theorem Call.logged?_of_pass (h : c.tree.passes c.value = true) : c.logged? = none := if_pos h

/-- A call that fails is logged with the kind of its report. -/
theorem Call.logged?_of_fail (h : t.passes v = false) :
    Call.logged? ⟨t, v⟩ = some (.inspectionFailed (t.report v).kind) :=
  if_neg (Bool.eq_false_iff.mp h)

theorem Call.log_failure? (c : Call) : log c.failure?.toList = c.logged?.toList := by
  unfold failure? logged?
  split <;> rfl

/-- The entries of the inspections that are nested in one and of that one, those that fail. -/
def entries (t : Tree) (v : Value) : List LogEntry := (t.calls v).filterMap Call.logged?

/-- If no leaf logs anything itself, the log is that of the failing inspections. -/
theorem log_inspect (hquiet : ∀ i, t.Contains (leaf i) → i.IsQuiet) :
    log (t.inspector.inspect v).events = t.entries v := by
  rw [events_eq_calls]
  refine log_flatMap fun c hc => ?_
  have hown : log c.own = [] :=
    Call.log_own fun i hi => hquiet i (hi ▸ Contains.of_mem_calls hc)
  rw [log_append, hown, Call.log_failure?, List.nil_append]

/-- The entries of a tree are those of its nested calls, in their order, and then its own. -/
theorem entries_eq (t : Tree) (v : Value) :
    t.entries v =
      ((t.nested v).flatMap fun c => c.tree.entries c.value) ++ (Call.logged? ⟨t, v⟩).toList := by
  rw [entries, calls_eq, List.filterMap_append, List.filterMap_flatMap]
  cases h : Call.logged? ⟨t, v⟩ <;> simp [entries, h]

/-- Of a tree that passes without a choice, every inspection by its parts passes. -/
theorem passes_of_mem_nested (hfree : t.IsChoiceFree) (h : t.passes v = true)
    (hc : c ∈ t.nested v) : c.tree.passes c.value = true := by
  cases t with
  | leaf i => cases hc
  | all trees =>
    have hall : ∀ u ∈ upToFailure (·.passes v) trees, u.passes v = true := by
      refine forall_mem_upToFailure fun before w hfirst => ?_
      rw [passes, report_all hfirst] at h
      exact Bool.eq_false_iff.mp hfirst.fails h
    obtain ⟨u, hu, rfl⟩ := List.mem_map.mp hc
    exact hall u hu
  -- A choice may pass after a failure, and is the one exception.
  | any alternatives => exact absurd (.self _) (hfree alternatives)
  | optional t =>
    by_cases hn : v.isNullish = true
    · rw [nested, if_pos hn] at hc
      cases hc
    · rw [nested, if_neg hn] at hc
      obtain rfl := List.mem_singleton.mp hc
      rwa [passes, report_optional, if_neg hn] at h
  | array length element =>
    obtain _ | t := element
    · cases hc
    cases v with
    | array id items =>
      rw [nested] at hc
      cases hlen : length.violation? items.length with
      | some x =>
        rw [hlen] at hc
        cases hc
      | none =>
        rw [hlen] at hc
        have hall : ∀ w ∈ upToFailure t.passes items, t.passes w = true := by
          refine forall_mem_upToFailure fun before u hfirst => ?_
          rw [passes, report_array hlen hfirst, Report.passed_within] at h
          exact Bool.eq_false_iff.mp hfirst.fails h
        obtain ⟨w, hw, rfl⟩ := List.mem_map.mp hc
        exact hall w hw
    | _ => cases hc
  | object nullable properties =>
    by_cases hobject : v.isObject = true
    · rw [nested, if_pos hobject] at hc
      have hall : ∀ p ∈ upToFailure (fun p => p.2.passes (v.property p.1)) properties,
          p.2.passes (v.property p.1) = true := by
        refine forall_mem_upToFailure fun before q hfirst => ?_
        rw [passes, report_object hobject hfirst, Report.passed_within] at h
        exact Bool.eq_false_iff.mp hfirst.fails h
      obtain ⟨p, hp, rfl⟩ := List.mem_map.mp hc
      exact hall p hp
    · rw [nested, if_neg hobject] at hc
      cases hc

/-- An inspection without choices that passes leaves nothing in the log. -/
theorem entries_of_pass (hfree : t.IsChoiceFree) (h : t.passes v = true) : t.entries v = [] := by
  induction t using induction_parts generalizing v with
  | step t ih =>
    have hnested : ((t.nested v).flatMap fun c => c.tree.entries c.value) = [] := by
      refine List.flatMap_eq_nil_iff.mpr fun c hc => ?_
      have hpart := Call.tree_mem_parts hc
      exact ih c.tree hpart (hfree.part hpart) (passes_of_mem_nested hfree h hc)
    rw [entries_eq, hnested, Call.logged?_of_pass h]
    rfl

/-- Where a node fails on its own, none of its parts has been called. -/
theorem nested_of_complaint {complaint : ErrorKind × String}
    (h : t.complaint? v = some complaint) : t.nested v = [] := by
  cases t with
  | leaf _ => rfl
  | all _ | optional _ => cases h
  | any alternatives =>
    cases alternatives with
    | nil => rfl
    | cons _ _ => cases h
  | array length element =>
    obtain _ | t := element
    · rfl
    cases v with
    | array id items =>
      obtain ⟨x, hx, -⟩ := Option.map_eq_some_iff.mp h
      rw [nested, hx]
      rfl
    | _ => rfl
  | object nullable properties =>
    by_cases hobject : v.isObject = true
    · obtain ⟨htype, hnull⟩ := Value.isObject_iff.mp hobject
      simp [complaint?, htype, hnull] at h
    · rw [nested, if_neg hobject]

/-- A tree adds one entry to those of the last of its parts that it calls, if those before pass and
it fails with the kind of the last. -/
theorem entries_of_nested {before : List Call} {next : Call} {n : Nat}
    (hfree : t.IsChoiceFree) (hfails : t.passes v = false)
    (hnested : t.nested v = before ++ [next])
    (hbefore : ∀ c ∈ before, c.tree.passes c.value = true)
    (hkind : (t.report v).kind = (next.tree.report next.value).kind)
    (hnext : next.tree.entries next.value =
      List.replicate n (.inspectionFailed (next.tree.report next.value).kind)) :
    t.entries v = List.replicate (n + 1) (.inspectionFailed (t.report v).kind) := by
  have hsilent : before.flatMap (fun c => c.tree.entries c.value) = [] := by
    refine List.flatMap_eq_nil_iff.mpr fun c hc => ?_
    have hpart : c.tree ∈ t.parts :=
      Call.tree_mem_parts (hnested ▸ List.mem_append_left [next] hc)
    exact entries_of_pass (hfree.part hpart) (hbefore c hc)
  rw [entries_eq, hnested, Call.logged?_of_fail hfails, List.flatMap_append, hsilent,
    List.nil_append, List.flatMap_singleton, hnext, ← hkind, List.replicate_succ']
  rfl

/-- Without a choice, every inspection along a trail fails with the kind of the node, and no other
inspection fails. -/
theorem entries_of_failsAlong {steps : List Step} {node : Tree} {place : Value}
    (hfree : t.IsChoiceFree) (h : FailsAlong t v steps node place) :
    t.entries v = List.replicate (steps.length + 1) (.inspectionFailed (t.report v).kind) := by
  have hfails := h.passes_eq_false
  -- Each step up the trail logs once more, with the kind that the node has failed with.
  induction h with
  | here hc =>
    rw [entries_eq, nested_of_complaint hc, Call.logged?_of_fail hfails]
    rfl
  | @part parts before t node v place steps hfirst hrest ih =>
    have hpart : t ∈ (all parts).parts := hfirst.mem
    have hnested : (all parts).nested v = before.map (⟨·, v⟩) ++ [⟨t, v⟩] := by
      rw [nested, hfirst.upToFailure_eq, List.map_append, List.map_singleton]
    exact entries_of_nested hfree hfails hnested (List.forall_mem_map.mpr hfirst.earlier)
      (congrArg Report.kind (report_all hfirst))
      (ih (hfree.part hpart) hrest.passes_eq_false)
  | @alternative alternatives _ _ _ _ _ _ _ _ _ _ => exact absurd (.self _) (hfree alternatives)
  | @present t node v place steps hn hrest ih =>
    have hpart : t ∈ (optional t).parts := List.mem_singleton_self t
    have hreport : (optional t).report v = t.report v := by
      rw [report_optional, hn, if_neg Bool.false_ne_true]
    have hnested : (optional t).nested v = [] ++ [⟨t, v⟩] := by
      rw [nested, hn, if_neg Bool.false_ne_true, List.nil_append]
    exact entries_of_nested hfree hfails hnested (List.forall_mem_nil _)
      (congrArg Report.kind hreport)
      (ih (hfree.part hpart) hrest.passes_eq_false)
  | @element length t node id items before w place steps hlen hfirst hrest ih =>
    have hpart : t ∈ (array length (some t)).parts := List.mem_singleton_self t
    have hnested : (array length (some t)).nested (.array id items) =
        before.map (⟨t, ·⟩) ++ [⟨t, w⟩] := by
      rw [nested, hlen, Option.isSome_none, if_neg Bool.false_ne_true, hfirst.upToFailure_eq,
        List.map_append, List.map_singleton]
    exact entries_of_nested hfree hfails hnested (List.forall_mem_map.mpr hfirst.earlier)
      (by rw [report_array hlen hfirst, Report.kind_within])
      (ih (hfree.part hpart) hrest.passes_eq_false)
  | @property nullable properties before name t node v place steps hobject hfirst hrest ih =>
    have hpart : t ∈ (object nullable properties).parts := List.mem_map_of_mem hfirst.mem
    have hnested : (object nullable properties).nested v =
        before.map (fun p => ⟨p.2, v.property p.1⟩) ++ [⟨t, v.property name⟩] := by
      rw [nested, if_pos hobject, hfirst.upToFailure_eq, List.map_append, List.map_singleton]
    exact entries_of_nested hfree hfails hnested (List.forall_mem_map.mpr hfirst.earlier)
      (by rw [report_object hobject hfirst, Report.kind_within])
      (ih (hfree.part hpart) hrest.passes_eq_false)

/-- An inspection leaves on record what a check does, and then its failure if it fails. If no leaf
logs anything itself, the log has the failing ones of the nested inspections in the order in which
they are completed. Without a choice these are the inspections along the trail, of one kind. -/
theorem log_has_failing_inspections (t : Tree) (v : Value) :
    (t.inspector.inspect v).events = (t.inspector.check v).events ++
        (if (t.inspector.inspect v).value.passed then []
        else [.inspectionFailed (t.inspector.inspect v).value.kind]) ∧
    ((∀ i, t.Contains (leaf i) → i.IsQuiet) →
      log (t.inspector.inspect v).events = (t.calls v).filterMap Call.logged? ∧
      (t.IsChoiceFree →
        ((t.inspector.inspect v).value.passed = true → log (t.inspector.inspect v).events = []) ∧
        ((t.inspector.inspect v).value.passed = false →
          ∃ trail : Trail t v, (∀ other : Trail t v, other = trail) ∧
            log (t.inspector.inspect v).events = List.replicate (trail.steps.length + 1)
              (.inspectionFailed (t.inspector.inspect v).value.kind)))) := by
  rw [value_inspect]
  refine ⟨?_, fun hquiet => ⟨log_inspect hquiet, fun hfree => ⟨fun h => ?_, fun h => ?_⟩⟩⟩
  · rw [Inspector.events_inspect, events_check]
  · rw [log_inspect hquiet, entries_of_pass hfree h]
  · obtain ⟨trail⟩ := exists_trail h
    exact ⟨trail, trail.eq,
      (log_inspect hquiet).trans (entries_of_failsAlong hfree trail.failsAlong)⟩

/-- A port is a number, and is observed. -/
def port : Tree :=
  all [leaf (.ofValidator (.probe "port" Value.isDefined)),
    leaf (.ofRule NumberRule.unbounded.violation?)]

/-- A service has a name, and may have ports. -/
def service : Tree :=
  object false [("name", leaf .defined), ("ports", optional (array .unbounded (some port)))]

def plainService : Value := .object 2 none [("name", .string "log")]

def brokenService : Value :=
  .object 0 none
    [("name", .string "log"), ("ports", .array 1 [.number .nan, .string "http"])]

/-- Neither a choice, nor a leaf that logs anything itself. -/
def IsPlain : Tree → Prop
  | leaf i => i.IsQuiet
  | any _ => False
  | _ => True

theorem isPlain_of_port : ∀ u, port.Contains u → u.IsPlain :=
  forall_contains trivial (List.forall_mem_cons.mpr
    ⟨forall_contains_leaf (isQuiet_probe "port" Value.isDefined),
      List.forall_mem_singleton.mpr (forall_contains_leaf (isQuiet_ofRule _))⟩)

theorem isPlain_of_service : ∀ u, service.Contains u → u.IsPlain := by
  have hports : ∀ u, (optional (array .unbounded (some port))).Contains u → u.IsPlain :=
    forall_contains trivial (List.forall_mem_singleton.mpr
      (forall_contains trivial (List.forall_mem_singleton.mpr isPlain_of_port)))
  exact forall_contains trivial (List.forall_mem_cons.mpr
    ⟨forall_contains_leaf (isQuiet_ofRule _), List.forall_mem_singleton.mpr hports⟩)

theorem log_has_failing_inspections_service :
    (∀ i, service.Contains (leaf i) → i.IsQuiet) ∧ service.IsChoiceFree ∧
    (service.inspector.inspect plainService).value.passed = true ∧
    log (service.inspector.inspect plainService).events = [] ∧
    (service.inspector.inspect brokenService).value.passed = false ∧
    log (service.inspector.inspect brokenService).events =
      (service.calls brokenService).filterMap Call.logged? ∧
    ∃ trail : Trail service brokenService, (∀ other : Trail service brokenService, other = trail) ∧
      log (service.inspector.inspect brokenService).events =
        List.replicate (trail.steps.length + 1)
          (.inspectionFailed (service.inspector.inspect brokenService).value.kind) := by
  have hquiet : ∀ i, service.Contains (leaf i) → i.IsQuiet := fun i => isPlain_of_service (leaf i)
  have hfree : service.IsChoiceFree := fun alternatives => isPlain_of_service (any alternatives)
  obtain ⟨-, hplain⟩ := log_has_failing_inspections service plainService
  obtain ⟨-, hpass⟩ := hplain hquiet
  obtain ⟨-, hbroken⟩ := log_has_failing_inspections service brokenService
  obtain ⟨hcalls, hfail⟩ := hbroken hquiet
  exact ⟨hquiet, hfree, rfl, (hpass hfree).1 rfl, rfl, hcalls, (hfail hfree).2 rfl⟩

example : log (service.inspector.inspect brokenService).events =
    List.replicate 5 (.inspectionFailed .typeError) := by
  decide

end Tree

end Inspector

end Conform
