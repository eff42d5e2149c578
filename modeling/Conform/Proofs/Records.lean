import Conform.Inspector

/-! Records of checks: what a checker leaves on record, if the checkers that it is put together from
leave the record of a check. -/

namespace Conform

/-- The record of a check. A checker is only rejected where it is built for the check, and then the
check fails for that reason. No failure is raised, and no text is formed. -/
inductive CheckRecord : List Event → Prop where
  | nil : CheckRecord []
  | probed (probe : Probe) (v : Value) {rest : List Event} :
      CheckRecord rest → CheckRecord (.probed probe v :: rest)
  | inspectionFailed (kind : ErrorKind) {rest : List Event} :
      CheckRecord rest → CheckRecord (.inspectionFailed kind :: rest)
  | checkFailed (text : String) {rest : List Event} :
      CheckRecord rest → CheckRecord (.checkFailed text :: rest)
  | rebuildFailed (e : ConfigError) {rest : List Event} :
      CheckRecord rest → CheckRecord (.rejected e :: .checkFailed e.text :: rest)

namespace CheckRecord

variable {events later : List Event}

theorem append (h : CheckRecord events) (hlater : CheckRecord later) :
    CheckRecord (events ++ later) := by
  induction h with
  | nil => exact hlater
  | probed probe v _ ih => exact .probed probe v ih
  | inspectionFailed kind _ ih => exact .inspectionFailed kind ih
  | checkFailed text _ ih => exact .checkFailed text ih
  | rebuildFailed e _ ih => exact .rebuildFailed e ih

theorem not_mem_formatted (h : CheckRecord events) : .formatted ∉ events := by
  induction h <;> simp_all

/-- A check raises no failure. -/
theorem not_mem_raised (h : CheckRecord events) (f : Failure) : .raised f ∉ events := by
  induction h <;> simp_all

end CheckRecord

/-- What the run leaves on record is the record of a check. -/
def Recorded.IsOrderly {α : Type} (run : Recorded α) : Prop := CheckRecord run.events

namespace Recorded.IsOrderly

variable {α β : Type}

protected theorem pure (a : α) : (pure a : Recorded α).IsOrderly := CheckRecord.nil

/-- Two runs in a row leave the record of a check if each of them does. -/
protected theorem bind {run : Recorded α} {next : α → Recorded β} (h : run.IsOrderly)
    (hnext : ∀ a, (next a).IsOrderly) : (run >>= next).IsOrderly :=
  CheckRecord.append h (hnext run.value)

/-- A run that goes one of two ways after a verdict. -/
theorem verdict {run : Recorded α} {passed : α → Bool} {pass fail : α → Recorded β}
    (h : run.IsOrderly) (hpass : ∀ a, (pass a).IsOrderly) (hfail : ∀ a, (fail a).IsOrderly) :
    (run >>= fun a => if passed a then pass a else fail a).IsOrderly := by
  refine h.bind fun a => ?_
  split
  · exact hpass a
  · exact hfail a

end Recorded.IsOrderly

namespace Validator

def IsOrderly (p : Validator) : Prop := ∀ v, (p.validate v).IsOrderly

variable {p : Validator} {validators : List Validator} {v : Value}

theorem isOrderly_ofPredicate (accepts : Value → Bool) : (ofPredicate accepts).IsOrderly :=
  fun _ => .nil

theorem isOrderly_probe (name : String) (accepts : Value → Bool) : (probe name accepts).IsOrderly :=
  fun v => .probed (.named name) v .nil

theorem isOrderly_all (h : ∀ p ∈ validators, p.IsOrderly) : (all validators).IsOrderly := by
  intro v
  induction validators with
  | nil => exact .pure true
  | cons p rest ih =>
    obtain ⟨hp, hrest⟩ := List.forall_mem_cons.mp h
    exact (hp v).verdict (fun _ => ih hrest) fun _ => .pure false

theorem isOrderly_any (h : ∀ p ∈ validators, p.IsOrderly) : (any validators).IsOrderly := by
  intro v
  induction validators with
  | nil => exact .pure false
  | cons p rest ih =>
    obtain ⟨hp, hrest⟩ := List.forall_mem_cons.mp h
    exact (hp v).verdict (fun _ => .pure true) fun _ => ih hrest

theorem isOrderly_optional (h : p.IsOrderly) : p.optional.IsOrderly := by
  intro v
  change (if v.isNullish then pure true else p.validate v : Recorded Bool).IsOrderly
  split
  · exact .pure true
  · exact h v

theorem isOrderly_everyValue (h : p.IsOrderly) (items : List Value) :
    (p.everyValue items).IsOrderly := by
  induction items with
  | nil => exact .pure true
  | cons v rest ih => exact (h v).verdict (fun _ => ih) fun _ => .pure false

theorem isOrderly_arrayOf (h : p.IsOrderly) : p.arrayOf.IsOrderly := by
  intro v
  cases v with
  | array id items => exact isOrderly_everyValue h items
  | _ => exact .pure false

theorem isOrderly_properties {properties : List (String × Validator)}
    (h : ∀ entry ∈ properties, entry.2.IsOrderly) (v : Value) :
    (object.properties properties v).IsOrderly := by
  induction properties with
  | nil => exact .pure true
  | cons entry rest ih =>
    obtain ⟨hp, hrest⟩ := List.forall_mem_cons.mp h
    exact (hp (v.property entry.1)).verdict (fun _ => ih hrest) fun _ => .pure false

/-- A validator of objects is as orderly as the checks of its properties. -/
theorem isOrderly_object {options : ObjectOptions Validator}
    (h : ∀ entry ∈ options.properties, entry.2.IsOrderly) : (object options).IsOrderly := by
  intro v
  simp only [object]
  split
  · split
    · exact .pure _
    · exact isOrderly_properties h v
  · exact .pure false

end Validator

namespace Inspector

def IsOrderly (i : Inspector) : Prop := ∀ v, (i.run v).IsOrderly

variable {i : Inspector} {inspectors : List Inspector} {v : Value}

/-- That an inspection failed may be on the record of a check. -/
theorem IsOrderly.inspect (h : i.IsOrderly) (v : Value) : (i.inspect v).IsOrderly := by
  unfold Recorded.IsOrderly
  rw [events_inspect]
  refine (h v).append ?_
  split
  · exact .nil
  · exact .inspectionFailed _ .nil

theorem IsOrderly.check (h : i.IsOrderly) (v : Value) : (i.check v).IsOrderly :=
  (h v).bind fun report => .pure report.passed

theorem IsOrderly.toValidator (h : i.IsOrderly) : i.toValidator.IsOrderly := h.check

theorem isOrderly_ofReport (report : Value → Report) : (ofReport report).IsOrderly := fun _ => .nil

theorem isOrderly_ofValidator {p : Validator} (h : p.IsOrderly) : (ofValidator p).IsOrderly :=
  fun v => (h v).bind fun b => .pure (Report.ofBool b)

theorem value_fallible (check : Value → ExceptT String Recorded Bool) (v : Value) :
    ((fallible check).run v).value =
      match (check v).run.value with
      | .ok b => .ofBool b
      | .error text => .constraint fun _ => text := by
  simp only [fallible, Recorded.value_bind]
  cases (check v).run.value <;> rfl

/-- A check that breaks down adds one event to those that it left before. -/
theorem events_fallible (check : Value → ExceptT String Recorded Bool) (v : Value) :
    ((fallible check).run v).events = (check v).run.events ++
      match (check v).run.value with
      | .ok _ => []
      | .error text => [.checkFailed text] := by
  simp only [fallible, Recorded.events_bind]
  cases (check v).run.value <;> rfl

theorem isOrderly_attempt (name : String) (check : Value → Except String Bool) :
    (attempt name check).IsOrderly := by
  intro v
  unfold Recorded.IsOrderly
  rw [attempt, events_fallible]
  refine .probed (.named name) v ?_
  split
  · exact .nil
  · exact .checkFailed _ .nil

theorem isOrderly_all (h : ∀ i ∈ inspectors, i.IsOrderly) : (all inspectors).IsOrderly := by
  intro v
  induction inspectors with
  | nil => exact .pure Report.pass
  | cons i rest ih =>
    obtain ⟨hi, hrest⟩ := List.forall_mem_cons.mp h
    exact (hi.inspect v).verdict (fun _ => ih hrest) .pure

theorem isOrderly_any_go (h : ∀ i ∈ inspectors, i.IsOrderly) (last : Report) (v : Value) :
    (any.go last inspectors v).IsOrderly := by
  induction inspectors generalizing last with
  | nil => exact .pure last
  | cons i rest ih =>
    obtain ⟨hi, hrest⟩ := List.forall_mem_cons.mp h
    exact (hi.inspect v).verdict .pure fun _ => ih hrest _

theorem isOrderly_optional (h : i.IsOrderly) : i.optional.IsOrderly := by
  intro v
  change (if v.isNullish then pure .pass else i.inspect v : Recorded Report).IsOrderly
  split
  · exact .pure Report.pass
  · exact h.inspect v

theorem isOrderly_elements (h : i.IsOrderly) (start : Nat) (items : List Value) :
    (i.elements start items).IsOrderly := by
  induction items generalizing start with
  | nil => exact .pure Report.pass
  | cons v rest ih => exact (h.inspect v).verdict (fun _ => ih (start + 1)) fun _ => .pure _

/-- An inspector of arrays is as orderly as the check of its elements. -/
theorem isOrderly_arrayWith {element : Option Inspector} (h : ∀ i ∈ element, i.IsOrderly)
    (length : LengthRule) : (arrayWith length element).IsOrderly := by
  intro v
  cases v with
  | array id items =>
    simp only [arrayWith]
    cases length.violation? items.length with
    | some violation => exact .pure (Report.ofViolation violation)
    | none =>
      cases element with
      | none => exact .pure Report.pass
      | some i => exact isOrderly_elements (h i rfl) 0 items
  | _ => exact .pure _

theorem isOrderly_properties {properties : List (String × Inspector)}
    (h : ∀ entry ∈ properties, entry.2.IsOrderly) (v : Value) :
    (object.properties properties v).IsOrderly := by
  induction properties with
  | nil => exact .pure Report.pass
  | cons entry rest ih =>
    obtain ⟨hi, hrest⟩ := List.forall_mem_cons.mp h
    exact (hi.inspect (v.property entry.1)).verdict (fun _ => ih hrest) fun _ => .pure _

theorem isOrderly_object {options : ObjectOptions Inspector}
    (h : ∀ entry ∈ options.properties, entry.2.IsOrderly) : (object options).IsOrderly := by
  intro v
  simp only [object]
  split
  · split
    · exact .pure _
    · exact isOrderly_properties h v
  · exact .pure _

theorem isOrderly_within (h : i.IsOrderly) (wrap : String → String) :
    (i.within wrap).IsOrderly :=
  fun v => (h.inspect v).bind fun report => .pure (report.within wrap)

/-- A build that fails inside a check leaves its own record, and then the failure of the check. -/
theorem fallible_of_error {α : Type} {build : Build α} {e : ConfigError}
    (h : build.result = .error e) (next : α → Value → ExceptT String Recorded Bool) (v : Value) :
    (fallible fun v => do next (← ExceptT.adapt ConfigError.text build) v).run v =
      ⟨.constraint fun _ => e.text, build.events ++ [.checkFailed e.text]⟩ := by
  obtain ⟨value, events⟩ := build
  obtain rfl : value = .error e := h
  apply Recorded.ext
  · rfl
  · rw [events_fallible]
    change ((events ++ []) ++ []) ++ [Event.checkFailed e.text] = _
    rw [List.append_nil, List.append_nil]
    rfl

theorem rebuilt_of_error {build : Build Inspector} {e : ConfigError} (h : build.result = .error e)
    (v : Value) :
    (rebuilt build).run v =
      ⟨.constraint fun _ => e.text, build.events ++ [.checkFailed e.text]⟩ :=
  fallible_of_error h (fun i v => i.check v) v

/-- A check that is built anew records the build before the check. -/
theorem events_rebuilt_of_ok {build : Build Inspector} {i : Inspector} (h : build.result = .ok i)
    (v : Value) : ((rebuilt build).run v).events = build.events ++ (i.check v).events := by
  obtain ⟨value, events⟩ := build
  obtain rfl : value = .ok i := h
  rw [rebuilt, events_fallible]
  change ((events ++ []) ++ ((i.check v).events ++ [])) ++ [] = _
  simp only [List.append_nil]
  rfl

end Inspector

end Conform
