import Conform.Checker
import Conform.Proofs.Records

/-! Records of builds: a build from a description records the one error that it comes to, and what
it comes to otherwise leaves the record of a check. -/

namespace Conform

/-- The outcome is no error of options that cannot be read. -/
def Legible {α : Type} (outcome : Except ConfigError α) : Prop :=
  ∀ fault, outcome ≠ .error (.invalidOptions fault)

namespace Legible

variable {α β : Type}

protected theorem pure (a : α) : Legible (pure a) := nofun

protected theorem bind {outcome : Except ConfigError α} {next : α → Except ConfigError β}
    (h : Legible outcome) (hnext : ∀ a, Legible (next a)) :
    Legible (outcome >>= next) := by
  cases outcome with
  | ok a => exact hnext a
  | error e => exact fun fault he => h fault (congrArg Except.error (Except.error.inj he))

theorem mapM {f : α → Except ConfigError β} (h : ∀ a, Legible (f a)) (items : List α) :
    Legible (items.mapM f) := by
  induction items with
  | nil => exact .pure []
  | cons a rest ih =>
    rw [List.mapM_cons]
    exact (h a).bind fun b => ih.bind fun bs => .pure (b :: bs)

theorem readPattern (source : String) : Legible (StringRule.readPattern source) := by
  unfold StringRule.readPattern
  intro fault
  cases Pattern.ofSource source <;> nofun

theorem classOfValue (v : Value) : Legible (Class.ofValue v) := by
  unfold Class.ofValue
  intro fault
  split <;> nofun

end Legible

/-- What a build leaves on record that comes to an error. Options that cannot be read are an error
that is not recorded. -/
def ConfigError.record : ConfigError → List Event
  | invalidOptions _ => []
  | e => [.rejected e]

namespace Build

variable {α β : Type}

/-- A build that rejects nothing leaves no record, and what it comes to has the property. -/
structure IsOrderly (P : α → Prop) (build : Build α) : Prop where
  of_ok : ∀ {a}, build.result = .ok a → build.events = [] ∧ P a
  of_error : ∀ {e}, build.result = .error e → build.events = e.record

namespace IsOrderly

variable {P : α → Prop} {Q : β → Prop} {build : Build α}

protected theorem pure {a : α} (h : P a) : IsOrderly P (pure a) where
  of_ok ha := by
    cases ha
    exact ⟨rfl, h⟩
  of_error he := nomatch he

protected theorem bind {next : α → Build β} (h : IsOrderly P build)
    (hnext : ∀ a, P a → IsOrderly Q (next a)) : IsOrderly Q (build >>= next) := by
  cases hb : build.result with
  | ok a =>
    obtain ⟨hevents, ha⟩ := h.of_ok hb
    have hresult : (build >>= next).result = (next a).result := by
      rw [result_bind, hb]
      rfl
    have hrecord : (build >>= next).events = (next a).events := by
      rw [events_bind_ok hb, hevents, List.nil_append]
    constructor
    · intro b hnb
      rw [hrecord]
      exact (hnext a ha).of_ok (hresult ▸ hnb)
    · intro e hne
      rw [hrecord]
      exact (hnext a ha).of_error (hresult ▸ hne)
  | error e =>
    have hresult : (build >>= next).result = .error e := by
      rw [result_bind, hb]
      rfl
    constructor
    · intro b hnb
      cases hresult.symm.trans hnb
    · intro e' hne
      cases hresult.symm.trans hne
      rw [events_bind_error hb, h.of_error hb]

/-- A conversion that keeps the property. -/
theorem convert (h : IsOrderly P build) {f : α → β} (hf : ∀ a, P a → Q (f a)) :
    IsOrderly Q (do return f (← build)) :=
  h.bind fun a ha => .pure (hf a ha)

/-- An error other than that of unreadable options is recorded where it ends the build. -/
theorem reject {e : ConfigError} (h : e.record = [.rejected e]) :
    IsOrderly P (Build.reject e) where
  of_ok ha := nomatch ha
  of_error he := by
    cases he
    exact h.symm

/-- An outcome that is taken over is recorded if it is a rejection. -/
theorem ofExcept {outcome : Except ConfigError α} (h : Legible outcome) :
    IsOrderly (fun _ => True) (ofExcept outcome) := by
  cases outcome with
  | ok a => exact .pure trivial
  | error e =>
    refine reject ?_
    cases e with
    | invalidOptions fault => exact (h fault rfl).elim
    | _ => rfl

/-- Options are read without a record. -/
theorem decoded (outcome : Except OptionsFault α) :
    IsOrderly (fun _ => True) (Checker.decoded (outcome.mapError .invalidOptions)) := by
  cases outcome with
  | ok options => exact .pure trivial
  | error fault =>
    refine ⟨nofun, fun {e} he => ?_⟩
    cases he
    rfl

end IsOrderly

end Build

/-! Each compilation records the error that it rejects, and nothing else. -/

/-- Each of the three rejections of bounds is recorded where it is found. -/
theorem LengthRule.isOrderly_compile (length min max : Option Nat) :
    Build.IsOrderly (fun _ => True) (compile length min max) := by
  have hwith : Build.IsOrderly (fun _ => True) (compile.withLength length min max) := by
    unfold compile.withLength
    split
    · exact .pure trivial
    · split
      · exact .reject rfl
      · exact .reject rfl
      · exact .pure trivial
  unfold compile
  split
  · split
    · exact .reject rfl
    · exact hwith
  · exact hwith

theorem NumberRule.isOrderly_compile (options : NumberOptions) :
    Build.IsOrderly (fun _ => True) (compile options) := by
  unfold compile
  split
  · exact .reject rfl
  · split
    · split
      · exact .reject rfl
      · exact .pure trivial
    · exact .pure trivial

theorem StringRule.isOrderly_compilePattern (source : String) :
    Build.IsOrderly (fun _ => True) (compilePattern source) :=
  (Build.IsOrderly.ofExcept (.readPattern source)).convert fun _ _ => trivial

/-- The pattern is rejected by the rule on strings, the bounds by the rule on lengths. -/
theorem StringRule.isOrderly_compile (options : StringOptions) :
    Build.IsOrderly (fun _ => True) (compile options) := by
  have hpattern : Build.IsOrderly (fun _ => True)
      (options.pattern.mapM fun source => Build.ofExcept (readPattern source)) := by
    cases options.pattern with
    | none => exact .pure trivial
    | some source =>
      exact (Build.IsOrderly.ofExcept (.readPattern source)).convert fun _ _ => trivial
  exact hpattern.bind fun pattern _ =>
    (LengthRule.isOrderly_compile _ _ _).convert fun _ _ => trivial

theorem ChoiceRule.isOrderly_compile (choices : Value) :
    Build.IsOrderly (fun _ => True) (compile choices) := by
  unfold compile
  split
  · exact .pure trivial
  · exact .reject rfl

theorem InstanceRule.isOrderly_compile (classes : List Class) :
    Build.IsOrderly (fun _ => True) (compile classes) := by
  unfold compile
  split
  · exact .reject rfl
  · exact .pure trivial

/-- A list of values is rejected for its first value that is no class, or for being empty. -/
theorem InstanceRule.isOrderly_compileValues (candidates : List Value) :
    Build.IsOrderly (fun _ => True) (compileValues candidates) :=
  (Build.IsOrderly.ofExcept (.mapM .classOfValue candidates)).bind fun classes _ =>
    isOrderly_compile classes

theorem DatatypeRule.isOrderly_compile (name : String) :
    Build.IsOrderly (fun _ => True) (compile name) := by
  unfold compile
  split
  · exact .pure trivial
  · exact .reject rfl

namespace Validator

/-- A validator that is made of a rule is as orderly as the compilation of the rule. -/
theorem isOrderly_build {ρ : Type} {build : Build ρ} (h : Build.IsOrderly (fun _ => True) build)
    (violation? : ρ → Value → Option Violation) :
    Build.IsOrderly IsOrderly (do return ofRule (violation? (← build))) :=
  h.convert fun _ _ => isOrderly_ofPredicate _

theorem isOrderly_array {element : Option Validator} (h : ∀ p ∈ element, p.IsOrderly)
    (min max : Option Nat) : Build.IsOrderly IsOrderly (array ⟨element, min, max⟩) := by
  refine (LengthRule.isOrderly_compile none min max).bind fun length _ => .pure ?_
  intro v
  cases v with
  | array id items =>
    simp only
    split
    · exact .pure false
    · cases element with
      | none => exact .pure true
      | some p => exact isOrderly_everyValue (h p rfl) items
  | _ => exact .pure false

end Validator

namespace Inspector

theorem isOrderly_build {ρ : Type} {build : Build ρ} (h : Build.IsOrderly (fun _ => True) build)
    (violation? : ρ → Value → Option Violation) :
    Build.IsOrderly IsOrderly (do return ofRule (violation? (← build))) :=
  h.convert fun _ _ => isOrderly_ofReport _

/-- A check that is built anew leaves the record of what was built, or of why it was not. -/
theorem isOrderly_rebuilt {build : Build Inspector} (h : Build.IsOrderly IsOrderly build) :
    (rebuilt build).IsOrderly := by
  intro v
  unfold Recorded.IsOrderly
  cases hb : build.result with
  | ok i =>
    obtain ⟨hevents, hi⟩ := h.of_ok hb
    rw [events_rebuilt_of_ok hb, hevents, List.nil_append]
    exact hi.check v
  | error e =>
    rw [rebuilt_of_error hb, h.of_error hb]
    cases e with
    | invalidOptions fault => exact .checkFailed _ .nil
    | _ => exact .rebuildFailed _ .nil

end Inspector

theorem ObjectOptions.mem_of_mem_ofList {α : Type} {nullable : Bool}
    {properties : List (String × α)} {p : String × α}
    (h : p ∈ (ofList nullable properties).properties) : p ∈ properties := by
  rw [ofList_eq] at h
  exact Entries.mem_of_mem_ofList h

namespace Checker

open Build (IsOrderly)

-- One induction for both kinds: a node may turn one kind of checker into the other.
mutual

/-- The validator of every description is built with a record of its one error. -/
theorem validator_isOrderly : ∀ c : Checker, IsOrderly Validator.IsOrderly c.validator
  | string options => Validator.isOrderly_build (StringRule.isOrderly_compile options) _
  | stringDocument _ =>
    (IsOrderly.decoded _).bind fun options _ =>
      Validator.isOrderly_build (StringRule.isOrderly_compile options) _
  | number options => Validator.isOrderly_build (NumberRule.isOrderly_compile options) _
  | numberDocument _ =>
    (IsOrderly.decoded _).bind fun options _ =>
      Validator.isOrderly_build (NumberRule.isOrderly_compile options) _
  | pattern source => Validator.isOrderly_build (StringRule.isOrderly_compilePattern source) _
  | boolean | function | defined | custom _ => .pure (Validator.isOrderly_ofPredicate _)
  | oneOf _ => .pure (Validator.isOrderly_ofPredicate _)
  | oneOfValue choices => Validator.isOrderly_build (ChoiceRule.isOrderly_compile choices) _
  | instanceOf classes => Validator.isOrderly_build (InstanceRule.isOrderly_compile classes) _
  | instanceOfValues candidates =>
    Validator.isOrderly_build (InstanceRule.isOrderly_compileValues candidates) _
  | datatype name => Validator.isOrderly_build (DatatypeRule.isOrderly_compile name) _
  | all checkers => (validators_areOrderly checkers).convert fun _ => Validator.isOrderly_all
  | any checkers => (validators_areOrderly checkers).convert fun _ => Validator.isOrderly_any
  | optional c => (validator_isOrderly c).convert fun _ => Validator.isOrderly_optional
  | arrayOf c => (validator_isOrderly c).convert fun _ => Validator.isOrderly_arrayOf
  | array element min max =>
    (validator?_isOrderly element).bind fun _ h => Validator.isOrderly_array h min max
  | object _ properties =>
    (validatorEntries_areOrderly properties).convert fun _ h =>
      Validator.isOrderly_object fun _ hp => h _ (ObjectOptions.mem_of_mem_ofList hp)
  | probe name accepts => .pure (Validator.isOrderly_probe name accepts)
  | attempt name check => .pure (Inspector.isOrderly_attempt name check).toValidator
  | ofValidator c => validator_isOrderly c
  | toValidator c => (inspector_isOrderly c).convert fun _ => Inspector.IsOrderly.toValidator
  | fallible c => .pure (Inspector.isOrderly_rebuilt (inspector_isOrderly c)).toValidator
  | reporting report => .pure (Inspector.isOrderly_ofReport report).toValidator
  | within c wrap => (inspector_isOrderly c).convert fun _ h =>
      (Inspector.isOrderly_within h wrap).toValidator

theorem validators_areOrderly : ∀ cs : List Checker,
    IsOrderly (fun ps => ∀ p ∈ ps, p.IsOrderly) (validators cs)
  | [] => .pure nofun
  | c :: rest =>
    (validator_isOrderly c).bind fun _ h => (validators_areOrderly rest).bind fun _ hrest =>
      .pure (List.forall_mem_cons.mpr ⟨h, hrest⟩)

theorem validator?_isOrderly : ∀ c : Option Checker,
    IsOrderly (fun p => ∀ q ∈ p, q.IsOrderly) (validator? c)
  | none => .pure nofun
  | some c => (validator_isOrderly c).convert fun _ h _ hq => Option.mem_some.mp hq ▸ h

theorem validatorEntries_areOrderly : ∀ entries : List (String × Checker),
    IsOrderly (fun ps => ∀ p ∈ ps, p.2.IsOrderly) (validatorEntries entries)
  | [] => .pure nofun
  | (_, c) :: rest =>
    (validator_isOrderly c).bind fun _ h => (validatorEntries_areOrderly rest).bind fun _ hrest =>
      .pure (List.forall_mem_cons.mpr ⟨h, hrest⟩)

/-- The inspector of every description is built with a record of its one error. -/
theorem inspector_isOrderly : ∀ c : Checker, IsOrderly Inspector.IsOrderly c.inspector
  | string options => Inspector.isOrderly_build (StringRule.isOrderly_compile options) _
  | stringDocument _ =>
    (IsOrderly.decoded _).bind fun options _ =>
      Inspector.isOrderly_build (StringRule.isOrderly_compile options) _
  | number options => Inspector.isOrderly_build (NumberRule.isOrderly_compile options) _
  | numberDocument _ =>
    (IsOrderly.decoded _).bind fun options _ =>
      Inspector.isOrderly_build (NumberRule.isOrderly_compile options) _
  | pattern source =>
    (Validator.isOrderly_build (StringRule.isOrderly_compilePattern source) _).convert fun _ =>
      Inspector.isOrderly_ofValidator
  | boolean | function | defined | oneOf _ => .pure (Inspector.isOrderly_ofReport _)
  | oneOfValue choices => Inspector.isOrderly_build (ChoiceRule.isOrderly_compile choices) _
  | instanceOf classes => Inspector.isOrderly_build (InstanceRule.isOrderly_compile classes) _
  | instanceOfValues candidates =>
    Inspector.isOrderly_build (InstanceRule.isOrderly_compileValues candidates) _
  | datatype name => Inspector.isOrderly_build (DatatypeRule.isOrderly_compile name) _
  | all checkers => (inspectors_areOrderly checkers).convert fun _ => Inspector.isOrderly_all
  | any checkers => (inspectors_areOrderly checkers).convert fun _ h =>
      Inspector.isOrderly_any_go h _
  | optional c => (inspector_isOrderly c).convert fun _ => Inspector.isOrderly_optional
  | arrayOf c => (inspector_isOrderly c).convert fun _ h =>
      Inspector.isOrderly_arrayWith (fun _ hi => Option.mem_some.mp hi ▸ h) _
  | array element min max =>
    (inspector?_isOrderly element).bind fun _ h =>
      (LengthRule.isOrderly_compile none min max).convert fun length _ =>
        Inspector.isOrderly_arrayWith h length
  | object _ properties =>
    (inspectorEntries_areOrderly properties).convert fun _ h =>
      Inspector.isOrderly_object fun _ hp => h _ (ObjectOptions.mem_of_mem_ofList hp)
  | custom accepts =>
    .pure (Inspector.isOrderly_ofValidator (Validator.isOrderly_ofPredicate accepts))
  | probe name accepts =>
    .pure (Inspector.isOrderly_ofValidator (Validator.isOrderly_probe name accepts))
  | attempt name check => .pure (Inspector.isOrderly_attempt name check)
  | ofValidator c => (validator_isOrderly c).convert fun _ => Inspector.isOrderly_ofValidator
  | toValidator c => (inspector_isOrderly c).convert fun _ h =>
      Inspector.isOrderly_ofValidator h.toValidator
  | fallible c => .pure (Inspector.isOrderly_rebuilt (inspector_isOrderly c))
  | reporting report => .pure (Inspector.isOrderly_ofReport report)
  | within c wrap => (inspector_isOrderly c).convert fun _ h => Inspector.isOrderly_within h wrap

theorem inspectors_areOrderly : ∀ cs : List Checker,
    IsOrderly (fun is => ∀ i ∈ is, i.IsOrderly) (inspectors cs)
  | [] => .pure nofun
  | c :: rest =>
    (inspector_isOrderly c).bind fun _ h => (inspectors_areOrderly rest).bind fun _ hrest =>
      .pure (List.forall_mem_cons.mpr ⟨h, hrest⟩)

theorem inspector?_isOrderly : ∀ c : Option Checker,
    IsOrderly (fun i => ∀ j ∈ i, j.IsOrderly) (inspector? c)
  | none => .pure nofun
  | some c => (inspector_isOrderly c).convert fun _ h _ hj => Option.mem_some.mp hj ▸ h

theorem inspectorEntries_areOrderly : ∀ entries : List (String × Checker),
    IsOrderly (fun is => ∀ p ∈ is, p.2.IsOrderly) (inspectorEntries entries)
  | [] => .pure nofun
  | (_, c) :: rest =>
    (inspector_isOrderly c).bind fun _ h => (inspectorEntries_areOrderly rest).bind fun _ hrest =>
      .pure (List.forall_mem_cons.mpr ⟨h, hrest⟩)

end

end Checker

end Conform
