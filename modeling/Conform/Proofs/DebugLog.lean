import Conform.Log
import Conform.Proofs.Builds
import Conform.Proofs.Misconfiguration

/-! The debug log: each error that a caller is given has one entry, and no error that nobody is
given has one. -/

namespace Conform

namespace LogEntry

/-- The entry of a checker that could not be built. -/
def rejected (e : ConfigError) : LogEntry :=
  ⟨.debug, [("message", "rejected checker configuration"), ("error", e.text)]⟩

/-- The entry of a check that could not come to a verdict. -/
def brokeDown (text : String) : LogEntry :=
  ⟨.debug, [("message", "checker failed during inspection"), ("error", text)]⟩

/-- The entry of a failure that was raised. -/
def raised (f : Failure) : LogEntry :=
  ⟨.debug, [("message", "assertion failed"), ("origin", f.origin), ("kind", f.kind.name),
    ("message", f.message)]⟩

end LogEntry

namespace Build

variable {α β : Type}

/-- The error that a build comes to, if it comes to one. -/
def rejection? (build : Build α) : Option ConfigError :=
  match build.result with
  | .ok _ => none
  | .error e => some e

theorem result_of_rejection? {build : Build α} {e : ConfigError} (h : build.rejection? = some e) :
    build.result = .error e := by
  unfold rejection? at h
  cases hb : build.result with
  | ok a =>
    rw [hb] at h
    cases h
  | error e' =>
    rw [hb] at h
    exact congrArg Except.error (Option.some.inj h)

/-- The record of a build is its rejection. -/
def RecordsRejection (build : Build α) : Prop :=
  build.events = build.rejection?.toList.map .rejected

namespace RecordsRejection

/-- A compilation that comes to an outcome records it, if it is a rejection. -/
theorem compiled {build : Build α} {outcome : Except ConfigError α} (h : build = ofExcept outcome) :
    build.RecordsRejection := by
  subst h
  cases outcome <;> rfl

theorem convert {build : Build α} (h : build.RecordsRejection) (f : α → β) :
    (do return f (← build) : Build β).RecordsRejection := by
  unfold RecordsRejection rejection? at h ⊢
  rw [result_bind]
  cases hb : build.result with
  | ok a =>
    rw [hb] at h
    rw [events_bind_ok hb, h]
    rfl
  | error e =>
    rw [hb] at h
    rw [events_bind_error hb, h]
    rfl

end RecordsRejection

end Build

/-- The compilations of rules, and the builders of both kinds of checker. -/
inductive IsBuilder : {α : Type} → Build α → Prop where
  | lengthRule (length min max : Option Nat) : IsBuilder (LengthRule.compile length min max)
  | numberRule (options : NumberOptions) : IsBuilder (NumberRule.compile options)
  | stringRule (options : StringOptions) : IsBuilder (StringRule.compile options)
  | patternRule (source : String) : IsBuilder (StringRule.compilePattern source)
  | choiceRule (choices : Value) : IsBuilder (ChoiceRule.compile choices)
  | instanceRule (classes : List Class) : IsBuilder (InstanceRule.compile classes)
  | instanceValues (candidates : List Value) : IsBuilder (InstanceRule.compileValues candidates)
  | datatypeRule (name : String) : IsBuilder (DatatypeRule.compile name)
  | patternValidator (source : String) : IsBuilder (Validator.pattern source)
  | stringValidator (options : StringOptions) : IsBuilder (Validator.string options)
  | stringInspector (options : StringOptions) : IsBuilder (Inspector.string options)
  | numberValidator (options : NumberOptions) : IsBuilder (Validator.number options)
  | numberInspector (options : NumberOptions) : IsBuilder (Inspector.number options)
  | arrayValidator (options : ArrayOptions Validator) : IsBuilder (Validator.array options)
  | arrayInspector (options : ArrayOptions Inspector) : IsBuilder (Inspector.array options)
  | choiceValidator (choices : Value) : IsBuilder (Validator.oneOfValue choices)
  | choiceInspector (choices : Value) : IsBuilder (Inspector.oneOfValue choices)
  | instanceValidator (classes : List Class) : IsBuilder (Validator.instanceOf classes)
  | instanceInspector (classes : List Class) : IsBuilder (Inspector.instanceOf classes)
  | instanceValuesValidator (candidates : List Value) :
      IsBuilder (Validator.instanceOfValues candidates)
  | instanceValuesInspector (candidates : List Value) :
      IsBuilder (Inspector.instanceOfValues candidates)
  | datatypeValidator (name : String) : IsBuilder (Validator.datatype name)
  | datatypeInspector (name : String) : IsBuilder (Inspector.datatype name)

/-- Every builder has its rejection for a record, since each is made of one compilation. -/
theorem IsBuilder.recordsRejection {α : Type} {build : Build α} (h : IsBuilder build) :
    build.RecordsRejection := by
  have hlength (length min max : Option Nat) :
      (LengthRule.compile length min max).RecordsRejection :=
    .compiled (LengthRule.compile_eq length min max)
  have hnumber (options : NumberOptions) : (NumberRule.compile options).RecordsRejection :=
    .compiled (NumberRule.compile_eq options)
  have hstring (options : StringOptions) : (StringRule.compile options).RecordsRejection :=
    .compiled (StringRule.compile_eq options)
  have hpattern (source : String) : (StringRule.compilePattern source).RecordsRejection :=
    .compiled (StringRule.compilePattern_eq source)
  have hchoices (choices : Value) : (ChoiceRule.compile choices).RecordsRejection :=
    .compiled (ChoiceRule.compile_eq choices)
  have hclasses (classes : List Class) : (InstanceRule.compile classes).RecordsRejection :=
    .compiled (InstanceRule.compile_eq classes)
  have hvalues (candidates : List Value) :
      (InstanceRule.compileValues candidates).RecordsRejection :=
    .compiled (InstanceRule.compileValues_eq candidates)
  have hdatatype (name : String) : (DatatypeRule.compile name).RecordsRejection :=
    .compiled (DatatypeRule.compile_eq name)
  cases h with
  | lengthRule => exact hlength _ _ _
  | numberRule => exact hnumber _
  | stringRule => exact hstring _
  | patternRule => exact hpattern _
  | choiceRule => exact hchoices _
  | instanceRule => exact hclasses _
  | instanceValues => exact hvalues _
  | datatypeRule => exact hdatatype _
  | patternValidator => exact (hpattern _).convert _
  | stringValidator | stringInspector => exact (hstring _).convert _
  | numberValidator | numberInspector => exact (hnumber _).convert _
  | arrayValidator | arrayInspector => exact (hlength _ _ _).convert _
  | choiceValidator | choiceInspector => exact (hchoices _).convert _
  | instanceValidator | instanceInspector => exact (hclasses _).convert _
  | instanceValuesValidator | instanceValuesInspector => exact (hvalues _).convert _
  | datatypeValidator | datatypeInspector => exact (hdatatype _).convert _

namespace Assert

/-- The call of an assertion for single use. -/
inductive Call where
  | ok (v : Value) (message : String) (kind : ErrorKind)
  | defined (v : Value)
  | boolean (v : Value)
  | function (v : Value)
  | number (v : Value) (min max : Option Number)
  | integer (v : Value) (min max : Option Number)
  | string (v : Value) (pattern : Option String) (min max : Option Nat)
  | object (v : Value) (entries : List (String × (Value → String → Recorded Bool)))
  | instanceOf (v : Value) (classes : List Class)
  | array (v : Value) (element : Option (Value → Nat → Recorded Bool)) (min max : Option Nat)
  | todo (message : String)

namespace Call

def run : Call → Recorded (Option Failure)
  | ok v message kind => Assert.ok v message kind
  | defined v => Assert.defined v
  | boolean v => Assert.boolean v
  | function v => Assert.function v
  | number v min max => Assert.number v min max
  | integer v min max => Assert.integer v min max
  | string v pattern min max => Assert.string v pattern min max
  | object v entries => Assert.object v entries
  | instanceOf v classes => Assert.instanceOf v classes
  | array v element min max => Assert.array v element min max
  | todo message => Assert.todo message

def origin : Call → String
  | ok .. => "assert"
  | defined _ => "assert.defined"
  | boolean _ => "assert.boolean"
  | function _ => "assert.function"
  | number .. => "assert.number"
  | integer .. => "assert.number.integer"
  | string .. => "assert.string"
  | object .. => "assert.object"
  | instanceOf .. => "assert.instance"
  | array .. => "assert.array"
  | todo _ => "assert.todo"

/-- The error that the call comes to when it compiles the rule that it asks for. -/
def fault? : Call → Option ConfigError
  | number _ min max => (NumberRule.compile ⟨min, max, false⟩).rejection?
  | integer _ min max =>
    (NumberRule.compile ⟨some (min.getD minSafeInteger), some (max.getD maxSafeInteger),
      true⟩).rejection?
  | string _ pattern min max => (StringRule.compile ⟨pattern, none, min, max⟩).rejection?
  | instanceOf _ classes => (InstanceRule.compile classes).rejection?
  | array (.array _ _) _ min max => (LengthRule.compile none min max).rejection?
  | _ => none

/-- What the checks leave on record that the call is given for entries or elements. -/
def heard : Call → List Event
  | object v entries => if v.isObject then (firstBadEntry v entries).events else []
  | array (.array _ items) element min max =>
    if (LengthRule.compile none min max).rejection?.isSome then []
    else
      match element with
      | none => []
      | some check => (firstBadElement check 0 items).events
  | _ => []

/-- What the checks that a call is given leave on record are records of checks. -/
def IsOrderly : Call → Prop
  | object _ entries => ∀ entry ∈ entries, ∀ w key, (entry.2 w key).IsOrderly
  | array _ element _ _ => ∀ check ∈ element, ∀ w index, (check w index).IsOrderly
  | _ => True

end Call

variable {α : Type} {origin : String} {heard : List Event}

/-- The run has the events on record, and then what it raises. -/
def RaisesAfter (heard : List Event) (run : Recorded (Option Failure)) : Prop :=
  run.events = heard ++ run.value.toList.map .raised

namespace RaisesAfter

theorem raise (f : Failure) : RaisesAfter [] f.raise := rfl

theorem violated? (v : Option Violation) : RaisesAfter [] (Assert.violated? origin v) := by
  cases v <;> rfl

theorem ofDatatype (expected : Datatype) (v : Value) :
    RaisesAfter [] (Assert.ofDatatype origin expected v) := by
  unfold Assert.ofDatatype
  split <;> rfl

protected theorem bind {run : Recorded α} {next : α → Recorded (Option Failure)}
    (h : ∀ a, RaisesAfter [] (next a)) : RaisesAfter run.events (run >>= next) :=
  congrArg (run.events ++ ·) (h run.value)

/-- A build that fails is recorded and raised; nothing else happens. -/
theorem configured {build : Build α} {outcome : Except ConfigError α}
    (hbuild : build = .ofExcept outcome) {next : α → Recorded (Option Failure)}
    (h : ∀ a, RaisesAfter heard (next a)) :
    RaisesAfter
      (build.rejection?.toList.map .rejected ++ if build.rejection?.isSome then [] else heard)
      (Assert.configured origin build next) := by
  subst hbuild
  cases outcome with
  | ok a => exact h a
  | error e => rfl

/-- A rule that cannot be had is recorded and raised, and one that is broken is raised. -/
theorem ofRule {ρ : Type} {build : Build ρ} {outcome : Except ConfigError ρ}
    (hbuild : build = .ofExcept outcome) (violation? : ρ → Option Violation) :
    RaisesAfter (build.rejection?.toList.map .rejected ++ [])
      (Assert.configured origin build fun r => Assert.violated? origin (violation? r)) := by
  subst hbuild
  cases outcome with
  | ok r => exact violated? (violation? r)
  | error e => rfl

/-- The entries of an object are checked unless something else is raised of it. -/
theorem object (v : Value) (entries : List (String × (Value → String → Recorded Bool))) :
    RaisesAfter (if v.isObject then (firstBadEntry v entries).events else [])
      (Assert.object v entries) := by
  cases hv : v.isObject with
  | true =>
    obtain ⟨htype, hnull⟩ := Value.isObject_iff.mp hv
    rw [if_pos rfl, Assert.object, if_neg (not_not_intro htype), if_neg (by simp [hnull])]
    refine RaisesAfter.bind fun bad => ?_
    cases bad <;> rfl
  | false =>
    rw [if_neg Bool.false_ne_true, Assert.object]
    by_cases htype : v.datatype = .object
    · have hnull : v.isNull = true := by simpa [Value.isObject, htype] using hv
      rw [if_neg (not_not_intro htype), if_pos hnull]
      rfl
    · rw [if_pos htype]
      rfl

end RaisesAfter

namespace Call

/-- A call leaves on record its fault, then what its checks do, and then what it raises. -/
theorem raisesAfter (c : Call) : RaisesAfter (c.fault?.toList.map .rejected ++ c.heard) c.run := by
  cases c with
  | ok v message kind =>
    change RaisesAfter [] (Assert.ok v message kind)
    unfold Assert.ok
    split <;> rfl
  | defined v =>
    change RaisesAfter [] (Assert.defined v)
    unfold Assert.defined
    split <;> rfl
  | boolean v | function v => exact RaisesAfter.ofDatatype _ v
  | number v min max | integer v min max => exact .ofRule (NumberRule.compile_eq _) _
  | string v pattern min max => exact .ofRule (StringRule.compile_eq _) _
  | instanceOf v classes => exact .ofRule (InstanceRule.compile_eq _) _
  | object v entries => exact RaisesAfter.object v entries
  | array v element min max =>
    cases v with
    | array id items =>
      refine RaisesAfter.configured (LengthRule.compile_eq _ _ _) fun length => ?_
      cases element with
      | none => exact RaisesAfter.violated? _
      | some check =>
        refine RaisesAfter.bind fun bad => ?_
        cases bad with
        | none => exact RaisesAfter.violated? _
        | some index => exact RaisesAfter.raise _
    | _ => rfl
  | todo message => rfl

/-- A compilation that rejects does so and nothing else. -/
theorem eq_reject_of_rejection? {ρ : Type} {build : Build ρ} {outcome : Except ConfigError ρ}
    {e : ConfigError} (hbuild : build = .ofExcept outcome) (h : build.rejection? = some e) :
    build = .reject e := by
  have houtcome : outcome = .error e := by
    rw [← Build.result_ofExcept outcome, ← hbuild, Build.result_of_rejection? h]
  rw [hbuild, houtcome]
  rfl

/-- A call for a rule that cannot be had does nothing else. -/
theorem run_of_fault {c : Call} {e : ConfigError} (h : c.fault? = some e) :
    c.run = misconfigured c.origin e := by
  cases c with
  | number v min max | integer v min max =>
    exact configured_of_reject (eq_reject_of_rejection? (NumberRule.compile_eq _) h) _ _
  | string v pattern min max =>
    exact configured_of_reject (eq_reject_of_rejection? (StringRule.compile_eq _) h) _ _
  | instanceOf v classes =>
    exact configured_of_reject (eq_reject_of_rejection? (InstanceRule.compile_eq _) h) _ _
  | array v element min max =>
    cases v with
    | array id items =>
      exact configured_of_reject (eq_reject_of_rejection? (LengthRule.compile_eq _ _ _) h) _ _
    | _ => cases h
  | _ => cases h

end Call

theorem isOrderly_firstBadEntry {v : Value}
    {entries : List (String × (Value → String → Recorded Bool))}
    (h : ∀ entry ∈ entries, ∀ w key, (entry.2 w key).IsOrderly) :
    (firstBadEntry v entries).IsOrderly := by
  induction entries with
  | nil => exact .pure none
  | cons entry rest ih =>
    obtain ⟨hentry, hrest⟩ := List.forall_mem_cons.mp h
    exact (hentry (v.property entry.1) entry.1).verdict (fun _ => ih hrest) fun _ => .pure _

theorem isOrderly_firstBadElement {check : Value → Nat → Recorded Bool}
    (h : ∀ w index, (check w index).IsOrderly) (index : Nat) (items : List Value) :
    (firstBadElement check index items).IsOrderly := by
  induction items generalizing index with
  | nil => exact .pure none
  | cons w rest ih => exact (h w index).verdict (fun _ => ih (index + 1)) fun _ => .pure _

/-- What a call hears from its checks is the record of a check. -/
theorem Call.IsOrderly.checkRecord {c : Call} (h : c.IsOrderly) : CheckRecord c.heard := by
  cases c with
  | object v entries =>
    rw [heard]
    split
    · exact isOrderly_firstBadEntry h
    · exact .nil
  | array v element min max =>
    cases v with
    | array id items =>
      simp only [heard]
      split
      · exact .nil
      · cases element with
        | none => exact .nil
        | some check => exact isOrderly_firstBadElement (h check rfl) 0 items
    | _ => exact .nil
  | _ => exact .nil

end Assert

theorem log_map_rejected (e : Option ConfigError) :
    log (e.toList.map .rejected) = e.toList.map .rejected := by
  cases e <;> rfl

theorem log_map_raised (f : Option Failure) :
    log (f.toList.map .raised) = f.toList.map .raised := by
  cases f <;> rfl

/-- A builder logs the error that it comes to, and nothing else. -/
theorem IsBuilder.log_events {α : Type} {build : Build α} (h : IsBuilder build) :
    log build.events = build.rejection?.toList.map .rejected := by
  have hrecord : build.events = build.rejection?.toList.map .rejected := h.recordsRejection
  rw [hrecord, log_map_rejected]

/-- A check that needs what cannot be built logs the rejection, and then that it broke down with the
same text. -/
theorem IsBuilder.log_fallible {α : Type} {build : Build α} {e : ConfigError}
    (h : IsBuilder build) (he : build.rejection? = some e)
    (next : α → Value → ExceptT String Recorded Bool) (v : Value) :
    log ((Inspector.fallible fun w => do
      next (← ExceptT.adapt ConfigError.text build) w).run v).events =
        [.rejected e, .brokeDown e.text] := by
  have hrecord : build.events = build.rejection?.toList.map .rejected := h.recordsRejection
  rw [Inspector.fallible_of_error (Build.result_of_rejection? he), hrecord, he]
  rfl

/-- Options are read without a record. -/
theorem Checker.events_decoded {α : Type} (outcome : Except ConfigError α) :
    (decoded outcome).events = [] := rfl

/-- An assertion logs what its inspector does, and then what it raises. -/
theorem Assertion.log_check (a : Assertion) (v : Value) :
    log (a.check v).events =
      log (a.inspector.inspect v).events ++ (a.check v).value.toList.map .raised := by
  rw [events_check, value_check, log_append]
  cases (a.inspector.run v).value with
  | pass => rfl
  | fail kind message =>
    simp only
    cases message.isReady <;> rfl

/-- A check that is built from a description raises nothing, whatever it leaves on record. -/
theorem Inspector.checkRecord_inspect {c : Checker} {i : Inspector}
    (h : c.inspector.result = .ok i) (v : Value) :
    CheckRecord (i.inspect v).events ∧ ∀ f, .raised f ∉ (i.inspect v).events := by
  obtain ⟨-, horderly⟩ := c.inspector_isOrderly.of_ok h
  have hrecord : CheckRecord (i.inspect v).events := horderly.inspect v
  exact ⟨hrecord, hrecord.not_mem_raised⟩

namespace Assert.Call

/-- A call logs its fault, then what its checks log, and then what it raises. -/
theorem log_run (c : Call) :
    log c.run.events =
      c.fault?.toList.map .rejected ++ log c.heard ++ c.run.value.toList.map .raised := by
  rw [c.raisesAfter, log_append, log_append, log_map_rejected, log_map_raised]

end Assert.Call

/-- A builder logs the error that it comes to, and a check that needed what it was to build logs
that it broke down for that reason. Options are read without a record. What is built from a
description leaves the record of a check, in which no failure is raised. To that an assertion adds
the failure that it raises, and so does an assertion for single use, after the rejection of a rule
that it asks for and cannot have; then it does nothing but raise that. -/
theorem errors_are_logged_once :
    (∀ {α : Type} (build : Build α), IsBuilder build →
      log build.events = build.rejection?.toList.map .rejected ∧
      ∀ e, build.rejection? = some e →
        ∀ (next : α → Value → ExceptT String Recorded Bool) (v : Value),
          log ((Inspector.fallible fun w => do
            next (← ExceptT.adapt ConfigError.text build) w).run v).events =
              [.rejected e, .brokeDown e.text]) ∧
    (∀ d : Json, (Checker.decoded (StringOptions.ofJson d)).events = [] ∧
      (Checker.decoded (NumberOptions.ofJson d)).events = []) ∧
    (∀ c : Checker, Build.IsOrderly Validator.IsOrderly c.validator ∧
      Build.IsOrderly Inspector.IsOrderly c.inspector) ∧
    (∀ (a : Assertion) (v : Value),
      log (a.check v).events =
        log (a.inspector.inspect v).events ++ (a.check v).value.toList.map .raised ∧
      ∀ c : Checker, c.inspector.result = .ok a.inspector →
        CheckRecord (a.inspector.inspect v).events ∧
          ∀ f, .raised f ∉ (a.inspector.inspect v).events) ∧
    ∀ c : Assert.Call,
      log c.run.events =
        c.fault?.toList.map .rejected ++ log c.heard ++ c.run.value.toList.map .raised ∧
      (∀ e, c.fault? = some e → c.run = Assert.misconfigured c.origin e) ∧
      (c.IsOrderly → CheckRecord c.heard ∧ ∀ f, .raised f ∉ c.heard) := by
  refine ⟨fun build h => ?_, fun d => ?_, fun c => ?_, fun a v => ?_, fun c => ?_⟩
  · exact ⟨h.log_events, fun e he next v => h.log_fallible he next v⟩
  · exact ⟨Checker.events_decoded _, Checker.events_decoded _⟩
  · exact ⟨c.validator_isOrderly, c.inspector_isOrderly⟩
  · exact ⟨a.log_check v, fun c hc => Inspector.checkRecord_inspect hc v⟩
  · exact ⟨c.log_run, fun e => Assert.Call.run_of_fault, fun horderly =>
      ⟨horderly.checkRecord, horderly.checkRecord.not_mem_raised⟩⟩

/-- A list of at least two elements and at most one. -/
def Checker.inverted : Checker := .array none (some 2) (some 1)

/-- A call for an object whose name is to be defined, for one without a name. -/
def Assert.Call.unnamed : Call :=
  .object (.object 0 none []) [("name", fun v _ => Inspector.defined.check v)]

/-- Bounds in the wrong order as a rule, in an assertion and in a call, and a call without any. -/
theorem errors_are_logged_once_inverted :
    (LengthRule.compile none (some 2) (some 1)).rejection? = some (.lengthBounds 2 1) ∧
    log (LengthRule.compile none (some 2) (some 1)).events = [.rejected (.lengthBounds 2 1)] ∧
    log ((Inspector.fallible fun _ => do
      let _ ← ExceptT.adapt ConfigError.text (LengthRule.compile none (some 2) (some 1))
      return true).run .null).events =
        [.rejected (.lengthBounds 2 1), .brokeDown (ConfigError.lengthBounds 2 1).text] ∧
    (Checker.fallible .inverted).inspector.result = .ok (.rebuilt Checker.inverted.inspector) ∧
    CheckRecord ((Inspector.rebuilt Checker.inverted.inspector).inspect .null).events ∧
    (Assert.Call.array (.array 0 []) none (some 2) (some 1)).fault? = some (.lengthBounds 2 1) ∧
    (Assert.Call.array (.array 0 []) none (some 2) (some 1)).run =
      Assert.misconfigured "assert.array" (.lengthBounds 2 1) ∧
    Assert.Call.unnamed.IsOrderly ∧ CheckRecord Assert.Call.unnamed.heard := by
  obtain ⟨hbuilder, -, -, hassertion, hcall⟩ := errors_are_logged_once
  obtain ⟨hlog, hfallible⟩ := hbuilder _ (.lengthRule none (some 2) (some 1))
  obtain ⟨-, hrecord⟩ :=
    hassertion (.ofInspector "list" (.rebuilt Checker.inverted.inspector)) .null
  obtain ⟨-, hfault, -⟩ := hcall (.array (.array 0 []) none (some 2) (some 1))
  obtain ⟨-, -, hheard⟩ := hcall .unnamed
  have hrejection : (LengthRule.compile none (some 2) (some 1)).rejection? =
      some (.lengthBounds 2 1) := rfl
  have hunnamed : Assert.Call.unnamed.IsOrderly := by
    intro entry hentry w key
    obtain rfl := List.mem_singleton.mp hentry
    exact (Inspector.isOrderly_ofReport _).check w
  exact ⟨hrejection, hlog, hfallible _ hrejection (fun _ _ => pure true) .null, rfl,
    (hrecord (.fallible .inverted) rfl).1, rfl, hfault _ rfl, hunnamed, (hheard hunnamed).1⟩

end Conform
