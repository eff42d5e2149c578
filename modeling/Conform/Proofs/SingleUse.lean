import Conform.Proofs.FirstFailure

/-! Assertions for single use raise what assertions of inspectors built from the same options raise,
as far as they say the same of the value. -/

namespace Conform

theorem Report.raised?_invalid (origin place : String) :
    ((Report.ofBool false).within (place ++ ", " ++ ·)).raised? origin =
      some ⟨.error, place ++ ", invalid value", origin⟩ := by
  change some (Failure.mk .error (place ++ ", " ++ "invalid value") origin) = _
  rw [String.append_assoc]
  rfl

theorem Inspector.value_ofValidator (p : Validator) (v : Value) :
    ((ofValidator p).run v).value = .ofBool (p.validate v).value := rfl

namespace Assert

/-- What an assertion of the inspector raises, or why there is no such inspector. -/
def throughInspector (origin : String) (build : Build Inspector) (v : Value) : Option Failure :=
  match build.result with
  | .ok i => ((Assertion.ofInspector origin i).check v).value
  | .error e => some ⟨.error, e.text, origin⟩

/-- A call raises what is found by the rule that it asks for, or why there is none. -/
theorem value_configured {α : Type} (origin : String) (build : Build α)
    (next : α → Recorded (Option Failure)) :
    (configured origin build next).value =
      match build.result with
      | .ok a => (next a).value
      | .error e => some ⟨.error, e.text, origin⟩ := by
  change (match build.result with | .ok a => next a | .error e => _ : Recorded _).value = _
  cases build.result <;> rfl

/-- A rule raises the same whether it is asked directly or by an inspector. -/
theorem configured_ofRule {ρ : Type} (origin : String) (build : Build ρ)
    (violation? : ρ → Value → Option Violation) (v : Value) :
    (configured origin build fun r => violated? origin (violation? r v)).value =
      throughInspector origin (do return .ofRule (violation? (← build))) v := by
  rw [value_configured, throughInspector, Build.result_bind]
  cases build.result with
  | error e => rfl
  | ok r =>
    refine Eq.trans ?_ (Assertion.value_ofInspector origin _ v).symm
    change (violated? origin (violation? r v)).value =
      (Report.ofViolation? (violation? r v)).raised? origin
    cases violation? r v <;> rfl

/-- A key, with the check of the property under it. -/
abbrev Entry := String × (Value → String → Recorded Bool)

def entryPasses (v : Value) (e : Entry) : Bool := (e.2 (v.property e.1) e.1).value

section Elements

variable {p : Validator} {items before : List Value} {w : Value}

theorem value_firstBadElement_cons (p : Validator) (index : Nat) (w : Value) (rest : List Value) :
    (firstBadElement (fun w _ => p.validate w) index (w :: rest)).value =
      if (p.validate w).value then
        (firstBadElement (fun w _ => p.validate w) (index + 1) rest).value
      else some index := by
  rw [firstBadElement, Recorded.value_bind]
  split <;> rfl

theorem firstBadElement_of_pass (h : ∀ w ∈ items, (p.validate w).value = true) (index : Nat) :
    (firstBadElement (fun w _ => p.validate w) index items).value = none := by
  induction items generalizing index with
  | nil => rfl
  | cons w rest ih =>
    rw [value_firstBadElement_cons, if_pos (h w (by simp))]
    exact ih (fun u hu => h u (by simp [hu])) _

/-- The loop over elements stops at the index of the first that fails. -/
theorem firstBadElement_of_firstFailure
    (h : FirstFailure (fun u => (p.validate u).value) items before w) (index : Nat) :
    (firstBadElement (fun w _ => p.validate w) index items).value =
      some (index + before.length) := by
  induction h generalizing index with
  | here hf =>
    rw [value_firstBadElement_cons, if_neg (by simp [hf])]
    rfl
  | later hp _ ih =>
    rw [value_firstBadElement_cons, if_pos hp, ih, List.length_cons, Nat.add_assoc, Nat.add_comm 1]

end Elements

section Entries

variable {v : Value} {entries before : List Entry} {e : Entry}

theorem value_firstBadEntry_cons (v : Value) (e : Entry) (rest : List Entry) :
    (firstBadEntry v (e :: rest)).value =
      if entryPasses v e then (firstBadEntry v rest).value else some e.1 := by
  rw [firstBadEntry, Recorded.value_bind, entryPasses]
  split <;> rfl

theorem firstBadEntry_of_pass (h : ∀ e ∈ entries, entryPasses v e = true) :
    (firstBadEntry v entries).value = none := by
  induction entries with
  | nil => rfl
  | cons e rest ih =>
    rw [value_firstBadEntry_cons, if_pos (h e (by simp))]
    exact ih fun d hd => h d (by simp [hd])

theorem firstBadEntry_of_firstFailure (h : FirstFailure (entryPasses v) entries before e) :
    (firstBadEntry v entries).value = some e.1 := by
  induction h with
  | here hf => rw [value_firstBadEntry_cons, if_neg (by simp [hf])]
  | later hp _ ih => rw [value_firstBadEntry_cons, if_pos hp, ih]

end Entries

section Arrays

variable {element : Option Validator} {min max : Option Nat} {length : LengthRule} {id : Nat}
  {items before : List Value}

theorem result_array (h : LengthRule.ofBounds none min max = .ok length)
    (element : Option Inspector) :
    (Inspector.array ⟨element, min, max⟩).result = .ok (.arrayWith length element) := by
  rw [Inspector.array, Build.result_bind, LengthRule.result_compile, h]
  rfl

theorem value_array (element : Option Validator)
    (h : LengthRule.ofBounds none min max = .ok length) :
    (array (.array id items) (element.map fun p w _ => p.validate w) min max).value =
      match element.bind fun p => (firstBadElement (fun w _ => p.validate w) 0 items).value with
      | some index =>
        some ⟨.error, "expected entry [" ++ Nat.repr index ++ "] is invalid", "assert.array"⟩
      | none => (Report.ofViolation? (length.violation? items.length)).raised? "assert.array" := by
  rw [array, value_configured, LengthRule.result_compile, h]
  have hlen : (violated? "assert.array" (length.violation? items.length)).value =
      (Report.ofViolation? (length.violation? items.length)).raised? "assert.array" := by
    cases length.violation? items.length <;> rfl
  cases element with
  | none => exact hlen
  | some p =>
    simp only [Option.map_some, Option.bind_some, Recorded.value_bind]
    cases (firstBadElement (fun w _ => p.validate w) 0 items).value with
    | none => exact hlen
    | some index => rfl

theorem inspected_of_pass (h : ∀ p ∈ element, ∀ w ∈ items, (p.validate w).value = true) :
    ((Inspector.arrayWith length (element.map .ofValidator)).run (.array id items)).value =
      Report.ofViolation? (length.violation? items.length) := by
  cases hlen : length.violation? items.length with
  | some x => exact Inspector.arrayWith_of_violation hlen _
  | none =>
    refine Inspector.arrayWith_of_pass hlen ?_
    intro i hi w hw
    obtain ⟨p, hp, rfl⟩ := Option.map_eq_some_iff.mp hi
    rw [Inspector.value_ofValidator, Report.passed_ofBool, h p hp w hw]

/-- Elements are looked at only if the length is admitted. -/
theorem inspected_of_firstFailure {p : Validator} {w : Value}
    (h : FirstFailure (fun u => (p.validate u).value) items before w) :
    ((Inspector.arrayWith length (some (.ofValidator p))).run (.array id items)).value =
      match length.violation? items.length with
      | some x => .ofViolation x
      | none =>
        (Report.ofBool false).within ("for index " ++ Nat.repr before.length ++ ", " ++ ·) := by
  cases hlen : length.violation? items.length with
  | some x => exact Inspector.arrayWith_of_violation hlen _
  | none =>
    have hfirst : FirstFailure (fun u => ((Inspector.ofValidator p).run u).value.passed) items
        before w := by
      simpa only [Inspector.value_ofValidator, Report.passed_ofBool] using h
    rw [Inspector.arrayWith_of_firstFailure hlen hfirst, Inspector.value_ofValidator, h.fails]

theorem array_of_pass (h : LengthRule.ofBounds none min max = .ok length)
    (hpass : ∀ p ∈ element, ∀ w ∈ items, (p.validate w).value = true) :
    (array (.array id items) (element.map fun p w _ => p.validate w) min max).value =
      (Report.ofViolation? (length.violation? items.length)).raised? "assert.array" := by
  rw [value_array _ h]
  cases element with
  | none => rfl
  | some p => rw [Option.bind_some, firstBadElement_of_pass (hpass p rfl)]

theorem array_of_firstFailure {p : Validator} {w : Value}
    (h : LengthRule.ofBounds none min max = .ok length)
    (hfirst : FirstFailure (fun u => (p.validate u).value) items before w) :
    (array (.array id items) (some fun w _ => p.validate w) min max).value =
      some ⟨.error, "expected entry [" ++ Nat.repr before.length ++ "] is invalid",
        "assert.array"⟩ := by
  refine (value_array (some p) h).trans ?_
  rw [Option.bind_some, firstBadElement_of_firstFailure hfirst, Nat.zero_add]

/-- Elements that fail leave a first one, and a checker of them. -/
theorem exists_firstFailure
    (h : ¬ ∀ p ∈ element, ∀ w ∈ items, (p.validate w).value = true) :
    ∃ p before w, element = some p ∧
      FirstFailure (fun u => (p.validate u).value) items before w := by
  cases element with
  | none => exact (h (by simp)).elim
  | some p =>
    obtain ⟨before, w, hfirst⟩ := FirstFailure.exists_of_not_forall fun hall =>
      h (by simpa using hall)
    exact ⟨p, before, w, rfl, hfirst⟩

/-- What an assertion of an array and an assertion of an inspector have in common if the inspector
has the same bounds and checks elements the same. -/
structure ArrayAgreement (v : Value) (element : Option Validator) (length : LengthRule)
    (asserted inspected : Option Failure) : Prop where
  verdict : asserted.isNone = inspected.isNone
  same_if_elements_pass :
    (∀ p ∈ element, ∀ items ∈ v.items?, ∀ w ∈ items, (p.validate w).value = true) →
      asserted = inspected
  same_index : ∀ p ∈ element, ∀ items ∈ v.items?, length.violation? items.length = none →
    ∀ before w, FirstFailure (fun u => (p.validate u).value) items before w →
      asserted = some ⟨.error, "expected entry [" ++ Nat.repr before.length ++ "] is invalid",
        "assert.array"⟩ ∧
      inspected = some ⟨.error, "for index " ++ Nat.repr before.length ++ ", invalid value",
        "assert.array"⟩

/-- Both assertions of an array agree, save that each looks at length and elements in its own
order. -/
theorem array_agrees (v : Value) (element : Option Validator)
    (h : LengthRule.ofBounds none min max = .ok length) :
    ∃ i, (Inspector.array ⟨element.map .ofValidator, min, max⟩).result = .ok i ∧
      ArrayAgreement v element length
        (array v (element.map fun p w _ => p.validate w) min max).value
        ((Assertion.ofInspector "assert.array" i).check v).value := by
  refine ⟨_, result_array h _, ?_⟩
  rw [Assertion.value_ofInspector]
  cases v with
  | array id items =>
    by_cases hpass : ∀ p ∈ element, ∀ w ∈ items, (p.validate w).value = true
    · rw [array_of_pass h hpass, inspected_of_pass hpass]
      refine ⟨rfl, fun _ => rfl, ?_⟩
      intro p hp items' hi _ before w hfirst
      cases hi
      exact (hfirst.not_forall (hpass p hp)).elim
    · obtain ⟨p, before, w, rfl, hfirst⟩ := exists_firstFailure hpass
      rw [Option.map_some, Option.map_some, array_of_firstFailure h hfirst,
        inspected_of_firstFailure hfirst]
      refine ⟨?_, fun hall => ?_, ?_⟩
      · cases length.violation? items.length <;> rfl
      · exact (hpass fun p hp w hw => hall p hp items rfl w hw).elim
      · intro p' hp' items' hi hlen before' w' hfirst'
        cases hp'
        cases hi
        obtain ⟨rfl, rfl⟩ := hfirst.unique hfirst'
        rw [hlen]
        exact ⟨rfl, Report.raised?_invalid _ _⟩
  | _ =>
    refine ⟨rfl, fun _ => rfl, ?_⟩
    intro p hp items hi
    cases hi

end Arrays

section Objects

variable {v : Value} {entries before : List Entry} {e : Entry}

/-- The check of an entry, as an inspector of the property under its key. -/
def inspectedEntry (e : Entry) : String × Inspector :=
  (e.1, .ofValidator ⟨fun w => e.2 w e.1⟩)

/-- The options of an object whose properties are checked as the entries are. -/
def inspectedEntries (entries : List Entry) : ObjectOptions Inspector :=
  .ofList false (entries.map inspectedEntry)

theorem value_inspectedEntry (v : Value) (e : Entry) :
    ((inspectedEntry e).2.run (v.property (inspectedEntry e).1)).value =
      .ofBool (entryPasses v e) := rfl

/-- Entries with different keys are inspected in their order. -/
theorem inspectedEntries_of_nodup (h : (entries.map (·.1)).Nodup) :
    inspectedEntries entries = ⟨false, entries.map inspectedEntry⟩ := by
  rw [inspectedEntries, ObjectOptions.ofList_eq, Entries.ofList_of_nodup]
  rwa [List.map_map]

theorem object_eq_of_not_isObject (entries : List Entry) (h : v.isObject = false)
    (options : ObjectOptions Inspector) (hoptions : options.optional = false) :
    (object v entries).value =
      ((Inspector.object options).run v).value.raised? "assert.object" := by
  rw [object]
  simp only [Inspector.object]
  by_cases htype : v.datatype = .object
  · have hnull : v.isNull = true := by simpa [Value.isObject, htype] using h
    simp only [htype, hnull, hoptions]
    rfl
  · rw [if_pos htype, if_neg htype]
    rfl

theorem object_of_isObject (entries : List Entry) (h : v.isObject = true) :
    (object v entries).value =
      match (firstBadEntry v entries).value with
      | none => none
      | some key =>
        some ⟨.error, "expected entry \"" ++ key ++ "\" is invalid", "assert.object"⟩ := by
  obtain ⟨htype, hnull⟩ := Value.isObject_iff.mp h
  rw [object, if_neg (by simp [htype]), if_neg (by simp [hnull]), Recorded.value_bind]
  cases (firstBadEntry v entries).value <;> rfl

theorem inspectedEntries_of_pass (hnodup : (entries.map (·.1)).Nodup) (hv : v.isObject = true)
    (h : ∀ e ∈ entries, entryPasses v e = true) :
    ((Inspector.object (inspectedEntries entries)).run v).value = .pass := by
  rw [inspectedEntries_of_nodup hnodup]
  refine Inspector.object_of_pass hv (List.forall_mem_map.mpr ?_)
  intro e he
  rw [value_inspectedEntry, Report.passed_ofBool, h e he]

theorem inspectedEntries_of_firstFailure (hnodup : (entries.map (·.1)).Nodup)
    (hv : v.isObject = true) (h : FirstFailure (entryPasses v) entries before e) :
    ((Inspector.object (inspectedEntries entries)).run v).value =
      (Report.ofBool false).within ("for property " ++ e.1 ++ ", " ++ ·) := by
  rw [inspectedEntries_of_nodup hnodup]
  have hfirst : FirstFailure (fun p => (p.2.run (v.property p.1)).value.passed)
      (entries.map inspectedEntry) (before.map inspectedEntry) (inspectedEntry e) := by
    apply FirstFailure.map inspectedEntry
    simpa only [value_inspectedEntry, Report.passed_ofBool] using h
  rw [Inspector.object_of_firstFailure hv hfirst, value_inspectedEntry, h.fails]
  rfl

/-- What an assertion of an object and an assertion of an inspector have in common if the inspector
checks the same entries. -/
structure ObjectAgreement (v : Value) (entries : List Entry) (asserted inspected : Option Failure) :
    Prop where
  verdict : asserted.isNone = inspected.isNone
  same_if_entries_pass :
    (v.isObject = true → ∀ e ∈ entries, entryPasses v e = true) → asserted = inspected
  same_key : v.isObject = true → ∀ before e, FirstFailure (entryPasses v) entries before e →
      asserted = some ⟨.error, "expected entry \"" ++ e.1 ++ "\" is invalid", "assert.object"⟩ ∧
      inspected = some ⟨.error, "for property " ++ e.1 ++ ", invalid value", "assert.object"⟩

/-- Both assertions of an object agree, save for the words in which they name an entry. -/
theorem object_agrees (v : Value) (hnodup : (entries.map (·.1)).Nodup) :
    ObjectAgreement v entries (object v entries).value
      ((Assertion.ofInspector "assert.object" (.object (inspectedEntries entries))).check
        v).value := by
  have hinspected := Assertion.value_ofInspector "assert.object"
    (.object (inspectedEntries entries)) v
  cases hobject : v.isObject with
  | false =>
    have heq := hinspected.trans (object_eq_of_not_isObject entries hobject
      (inspectedEntries entries) (by rw [inspectedEntries_of_nodup hnodup])).symm
    exact ⟨by rw [heq], fun _ => heq.symm, by simp [hobject]⟩
  | true =>
    have hasserted := object_of_isObject entries hobject
    by_cases hpass : ∀ e ∈ entries, entryPasses v e = true
    · rw [firstBadEntry_of_pass hpass] at hasserted
      rw [inspectedEntries_of_pass hnodup hobject hpass] at hinspected
      refine ⟨by rw [hasserted, hinspected]; rfl, fun _ => hasserted.trans hinspected.symm, ?_⟩
      intro _ before e hfirst
      exact (hfirst.not_forall hpass).elim
    · obtain ⟨before, e, hfirst⟩ := FirstFailure.exists_of_not_forall hpass
      rw [firstBadEntry_of_firstFailure hfirst] at hasserted
      rw [inspectedEntries_of_firstFailure hnodup hobject hfirst,
        Report.raised?_invalid] at hinspected
      refine ⟨by rw [hasserted, hinspected]; rfl, fun hall => (hpass (hall hobject)).elim, ?_⟩
      intro _ before' e' hfirst'
      obtain ⟨rfl, rfl⟩ := hfirst.unique hfirst'
      exact ⟨hasserted, hinspected⟩

end Objects

/-- Assertions of texts, numbers and instances raise what assertions of inspectors raise; assertions
of arrays and objects come to the verdict of inspectors, and find the same first failure. -/
theorem single_use_agrees (v : Value) :
    (∀ pattern min max, (string v pattern min max).value =
      throughInspector "assert.string" (Inspector.string ⟨pattern, none, min, max⟩) v) ∧
    (∀ min max, (number v min max).value =
      throughInspector "assert.number" (Inspector.number ⟨min, max, false⟩) v) ∧
    (∀ min max, (integer v min max).value =
      throughInspector "assert.number.integer"
        (Inspector.number
          ⟨some (min.getD minSafeInteger), some (max.getD maxSafeInteger), true⟩) v) ∧
    (∀ classes, (instanceOf v classes).value =
      throughInspector "assert.instance" (Inspector.instanceOf classes) v) ∧
    (∀ (element : Option Validator) min max length,
      LengthRule.ofBounds none min max = .ok length →
        ∃ i, (Inspector.array ⟨element.map .ofValidator, min, max⟩).result = .ok i ∧
          ArrayAgreement v element length
            (array v (element.map fun p w _ => p.validate w) min max).value
            ((Assertion.ofInspector "assert.array" i).check v).value) ∧
    ∀ entries : List Entry, (entries.map (·.1)).Nodup →
      ObjectAgreement v entries (object v entries).value
        ((Assertion.ofInspector "assert.object" (.object (inspectedEntries entries))).check
          v).value := by
  refine ⟨?_, ?_, ?_, ?_, ?_, ?_⟩
  · intro pattern min max
    exact configured_ofRule _ (StringRule.compile _) StringRule.violation? v
  · intro min max
    exact configured_ofRule _ (NumberRule.compile _) NumberRule.violation? v
  · intro min max
    exact configured_ofRule _ (NumberRule.compile _) NumberRule.violation? v
  · intro classes
    exact configured_ofRule _ (InstanceRule.compile _) InstanceRule.violation? v
  · intro element min max length h
    exact array_agrees v element h
  · intro entries h
    exact object_agrees v h

/-- A list of flags, one of which is null. -/
def flags : Value := .array 0 [.boolean true, .null]

def flagEntries : List Entry :=
  [("length", fun v _ => return v.isNumber), ("1", fun v _ => return v.isBoolean)]

/-- The second flag is found by its index among the elements, and by its key among the entries. -/
theorem single_use_agrees_flags :
    LengthRule.ofBounds none none (some 3) = .ok (.between none (some 3)) ∧
      (flagEntries.map (·.1)).Nodup ∧
      (array flags (some fun v _ => return v.isBoolean) none (some 3)).value =
        some ⟨.error, "expected entry [1] is invalid", "assert.array"⟩ ∧
      (object flags flagEntries).value =
        some ⟨.error, "expected entry \"1\" is invalid", "assert.object"⟩ := by
  have hbounds : LengthRule.ofBounds none none (some 3) = .ok (.between none (some 3)) := rfl
  have hnodup : (flagEntries.map (·.1)).Nodup := by decide
  obtain ⟨-, -, -, -, harray, hobject⟩ := single_use_agrees flags
  obtain ⟨_, -, hagrees⟩ :=
    harray (some (.ofPredicate Value.isBoolean)) none (some 3) (.between none (some 3)) hbounds
  refine ⟨hbounds, hnodup, ?_, ?_⟩
  · exact (hagrees.same_index _ rfl _ rfl rfl [.boolean true] .null (.later rfl (.here rfl))).1
  · exact ((hobject flagEntries hnodup).same_key rfl _ _ (.later rfl (.here rfl))).1

end Assert

end Conform
