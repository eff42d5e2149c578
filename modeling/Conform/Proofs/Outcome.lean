import Conform.Assertion
import Conform.Log

/-! Outcomes: the verdict of a run and the observed checks that it called. Each way of combining
checkers is one function of the outcomes of their parts, whichever kind of checker is combined. -/

namespace Conform

/-- What a run comes to: its verdict, and its calls of observed checks. -/
structure Outcome where
  passed : Bool
  calls : List (Probe × Value)

namespace Outcome

/-- A verdict without a call. -/
def silent (passed : Bool) : Outcome := ⟨passed, []⟩

/-- The calls of outcomes one after the other, none after the first outcome with the verdict. -/
def callsUntil (verdict : Bool) : List Outcome → List (Probe × Value)
  | [] => []
  | o :: rest => if o.passed = verdict then o.calls else o.calls ++ callsUntil verdict rest

/-- All outcomes pass; nothing is called after the first failure. -/
def every (outcomes : List Outcome) : Outcome :=
  ⟨outcomes.all (·.passed), callsUntil false outcomes⟩

/-- One outcome passes; nothing is called after the first that does. -/
def either (outcomes : List Outcome) : Outcome :=
  ⟨outcomes.any (·.passed), callsUntil true outcomes⟩

theorem every_cons_passed {o : Outcome} (h : o.passed = true) (rest : List Outcome) :
    every (o :: rest) = ⟨(every rest).passed, o.calls ++ (every rest).calls⟩ := by
  simp [every, callsUntil, h]

/-- After a failure nothing is called. -/
theorem every_cons_failed {o : Outcome} (h : o.passed = false) (rest : List Outcome) :
    every (o :: rest) = ⟨false, o.calls⟩ := by
  simp [every, callsUntil, h]

/-- After a success nothing is called. -/
theorem either_cons_passed {o : Outcome} (h : o.passed = true) (rest : List Outcome) :
    either (o :: rest) = ⟨true, o.calls⟩ := by
  simp [either, callsUntil, h]

theorem either_cons_failed {o : Outcome} (h : o.passed = false) (rest : List Outcome) :
    either (o :: rest) = ⟨(either rest).passed, o.calls ++ (either rest).calls⟩ := by
  simp [either, callsUntil, h]

/-- Of an array, the outcomes of its elements if its length is admitted. -/
def ofArray (length : LengthRule) (element : Option (Value → Outcome)) : Value → Outcome
  | .array _ items =>
    if (length.violation? items.length).isSome then silent false
    else
      match element with
      | none => silent true
      | some element => every (items.map element)
  | _ => silent false

/-- Of an object, the outcomes of its listed properties; null is asked for none of them. -/
def ofObject (options : ObjectOptions (Value → Outcome)) (v : Value) : Outcome :=
  if v.datatype = .object then
    if v.isNull then silent options.optional
    else every (options.properties.map fun p => p.2 (v.property p.1))
  else silent false

/-- Null and undefined pass without a call. -/
def ofOptional (outcome : Value → Outcome) (v : Value) : Outcome :=
  if v.isNullish then silent true else outcome v

end Outcome

namespace Recorded

variable {α β : Type}

def outcome (passed : α → Bool) (run : Recorded α) : Outcome := ⟨passed run.value, trace run.events⟩

/-- The calls of two runs in a row are those of both, and the verdict is that of the second. -/
theorem outcome_bind (passed : β → Bool) (run : Recorded α) (next : α → Recorded β) :
    (run >>= next).outcome passed =
      ⟨((next run.value).outcome passed).passed,
        trace run.events ++ ((next run.value).outcome passed).calls⟩ := by
  simp [outcome]

/-- A run that goes on after a pass, and calls nothing more after a failure. -/
theorem outcome_every {passed : α → Bool} {passed' : β → Bool} {rest : List Outcome}
    (run : Recorded α) {next : Recorded β} {stop : α → Recorded β}
    (hnext : next.outcome passed' = .every rest)
    (hstop : ∀ a, passed a = false → (stop a).outcome passed' = .silent false) :
    (run >>= fun a => if passed a then next else stop a).outcome passed' =
      .every (run.outcome passed :: rest) := by
  rw [outcome_bind]
  cases h : passed run.value with
  | true => rw [Outcome.every_cons_passed h, if_pos rfl, hnext, outcome]
  | false =>
    rw [Outcome.every_cons_failed h, if_neg Bool.false_ne_true, hstop _ h, outcome]
    simp [Outcome.silent]

/-- A run that calls nothing more after a pass, and goes on after a failure. -/
theorem outcome_either {passed : α → Bool} {passed' : β → Bool} {rest : List Outcome}
    (run : Recorded α) {next stop : α → Recorded β}
    (hstop : ∀ a, passed a = true → (stop a).outcome passed' = .silent true)
    (hnext : ∀ a, passed a = false → (next a).outcome passed' = .either rest) :
    (run >>= fun a => if passed a then stop a else next a).outcome passed' =
      .either (run.outcome passed :: rest) := by
  rw [outcome_bind]
  cases h : passed run.value with
  | true =>
    rw [Outcome.either_cons_passed h, if_pos rfl, hstop _ h, outcome]
    simp [Outcome.silent]
  | false => rw [Outcome.either_cons_failed h, if_neg Bool.false_ne_true, hnext _ h, outcome]

end Recorded

namespace Validator

def outcome (p : Validator) (v : Value) : Outcome := (p.validate v).outcome id

/-- A conjunction of validators calls them up to the first failure. -/
theorem outcome_all (validators : List Validator) (v : Value) :
    (Validator.all validators).outcome v = .every (validators.map (·.outcome v)) := by
  induction validators with
  | nil => rfl
  | cons p rest ih => exact Recorded.outcome_every (p.validate v) ih fun _ _ => rfl

theorem outcome_any (validators : List Validator) (v : Value) :
    (Validator.any validators).outcome v = .either (validators.map (·.outcome v)) := by
  induction validators with
  | nil => rfl
  | cons p rest ih =>
    exact Recorded.outcome_either (p.validate v) (fun _ _ => rfl) fun _ _ => ih

theorem outcome_optional (p : Validator) (v : Value) :
    p.optional.outcome v = .ofOptional p.outcome v := by
  change (if v.isNullish then pure true else p.validate v : Recorded Bool).outcome id = _
  unfold Outcome.ofOptional
  split <;> rfl

theorem outcome_everyValue (element : Validator) (items : List Value) :
    (element.everyValue items).outcome id = .every (items.map element.outcome) := by
  induction items with
  | nil => rfl
  | cons v rest ih => exact Recorded.outcome_every (element.validate v) ih fun _ _ => rfl

theorem outcome_properties (properties : List (String × Validator)) (v : Value) :
    (object.properties properties v).outcome id =
      .every (properties.map fun p => p.2.outcome (v.property p.1)) := by
  induction properties with
  | nil => rfl
  | cons p rest ih =>
    exact Recorded.outcome_every (p.2.validate (v.property p.1)) ih fun _ _ => rfl

theorem outcome_arrayOf (element : Validator) :
    element.arrayOf.outcome = Outcome.ofArray .unbounded (some element.outcome) := by
  funext v
  cases v with
  | array id items => exact outcome_everyValue element items
  | _ => rfl

/-- Validators of objects call the checks of properties in their order. -/
theorem outcome_object (options : ObjectOptions Validator) :
    (object options).outcome = Outcome.ofObject (options.map outcome) := by
  funext v
  simp only [outcome, object, Outcome.ofObject, ObjectOptions.map, List.map_map]
  split
  · split
    · rfl
    · exact outcome_properties options.properties v
  · rfl

end Validator

namespace Inspector

def outcome (i : Inspector) (v : Value) : Outcome := (i.run v).outcome Report.passed

/-- A failing report leaves nothing in the trace but what led to it. -/
theorem outcome_inspect (i : Inspector) (v : Value) :
    (i.inspect v).outcome Report.passed = i.outcome v := by
  have htrace : trace (i.inspect v).events = trace (i.run v).events := by
    rw [events_inspect, trace_append]
    split <;> exact List.append_nil _
  simp [Recorded.outcome, outcome, htrace]

theorem outcome_check (i : Inspector) (v : Value) : (i.check v).outcome id = i.outcome v := by
  simp [Recorded.outcome, outcome]

theorem outcome_all (inspectors : List Inspector) (v : Value) :
    (Inspector.all inspectors).outcome v = .every (inspectors.map (·.outcome v)) := by
  induction inspectors with
  | nil => rfl
  | cons i rest ih =>
    rw [List.map_cons, ← outcome_inspect i]
    refine Recorded.outcome_every (i.inspect v) ih ?_
    intro report h
    simp [Recorded.outcome, Outcome.silent, h]

theorem outcome_any_go {last : Report} (hlast : last.passed = false)
    (inspectors : List Inspector) (v : Value) :
    (any.go last inspectors v).outcome Report.passed = .either (inspectors.map (·.outcome v)) := by
  induction inspectors generalizing last with
  | nil => simp [any.go, Recorded.outcome, Outcome.either, Outcome.callsUntil, hlast]
  | cons i rest ih =>
    rw [List.map_cons, ← outcome_inspect i]
    refine Recorded.outcome_either (i.inspect v) ?_ ?_
    · intro report h
      simp [Recorded.outcome, Outcome.silent, h]
    · intro report h
      exact ih (by rw [Report.passed_within, h])

theorem outcome_any (inspectors : List Inspector) (v : Value) :
    (Inspector.any inspectors).outcome v = .either (inspectors.map (·.outcome v)) :=
  outcome_any_go rfl inspectors v

theorem outcome_optional (i : Inspector) (v : Value) :
    i.optional.outcome v = .ofOptional i.outcome v := by
  change (if v.isNullish then pure .pass else i.inspect v : Recorded Report).outcome _ = _
  unfold Outcome.ofOptional
  split
  · rfl
  · exact outcome_inspect i v

theorem outcome_elements (element : Inspector) (start : Nat) (items : List Value) :
    (element.elements start items).outcome Report.passed = .every (items.map element.outcome) := by
  induction items generalizing start with
  | nil => rfl
  | cons v rest ih =>
    rw [List.map_cons, ← outcome_inspect element]
    refine Recorded.outcome_every (element.inspect v) (ih (start + 1)) ?_
    intro report h
    simp [Recorded.outcome, Outcome.silent, h]

theorem outcome_properties (properties : List (String × Inspector)) (v : Value) :
    (object.properties properties v).outcome Report.passed =
      .every (properties.map fun p => p.2.outcome (v.property p.1)) := by
  induction properties with
  | nil => rfl
  | cons p rest ih =>
    rw [List.map_cons, ← outcome_inspect p.2]
    refine Recorded.outcome_every (p.2.inspect (v.property p.1)) ih ?_
    intro report h
    simp [Recorded.outcome, Outcome.silent, h]

/-- Inspectors of arrays call the check of elements if the length is admitted. -/
theorem outcome_arrayWith (length : LengthRule) (element : Option Inspector) :
    (arrayWith length element).outcome = Outcome.ofArray length (element.map outcome) := by
  funext v
  cases v with
  | array id items =>
    simp only [outcome, arrayWith, Outcome.ofArray]
    cases length.violation? items.length with
    | some violation => rfl
    | none =>
      cases element with
      | none => rfl
      | some element => exact outcome_elements element 0 items
  | _ => rfl

theorem outcome_object (options : ObjectOptions Inspector) :
    (object options).outcome = Outcome.ofObject (options.map outcome) := by
  funext v
  simp only [outcome, object, Outcome.ofObject, ObjectOptions.map, List.map_map]
  split
  · split
    · cases options.optional <;> rfl
    · exact outcome_properties options.properties v
  · rfl

end Inspector

/-- Raising a failure calls nothing more. -/
theorem Assertion.outcome_check (a : Assertion) (v : Value) :
    (a.check v).outcome Option.isNone = a.inspector.outcome v := by
  rw [← Inspector.outcome_inspect]
  cases h : (a.inspector.run v).value with
  | pass => simp [Recorded.outcome, value_check, events_check, h, Report.passed]
  | fail kind message =>
    cases hm : message.isReady <;>
      simp [Recorded.outcome, value_check, events_check, h, hm, Report.passed, trace, Event.probe?]

end Conform
