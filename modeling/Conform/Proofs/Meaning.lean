import Conform.Checker
import Conform.Proofs.Outcome

/-! The meaning of a description of a checker: what a checker built from it comes to on each value,
or why there is none. Both kinds of checker have the same meaning. -/

namespace Conform

/-- A rule calls nothing. -/
def Outcome.ofRule (violation? : Value → Option Violation) (v : Value) : Outcome :=
  silent (violation? v).isNone

/-- What there is to run, or else a failure without a call. -/
def Outcome.orFailing : Except ConfigError (Value → Outcome) → Value → Outcome
  | .ok outcome => outcome
  | .error _ => fun _ => silent false

/-- The build leaves no trace, and what it comes to has the meaning. -/
structure Build.Means {α μ : Type} (outcome : α → μ) (build : Build α)
    (meaning : Except ConfigError μ) : Prop where
  result : outcome <$> build.result = meaning
  silent : trace build.events = []

namespace Build.Means

variable {α β μ ν : Type} {outcome : α → μ} {outcome' : β → ν}

protected theorem pure {a : α} {m : μ} (h : outcome a = m) : Means outcome (pure a) (.ok m) :=
  ⟨congrArg Except.ok h, rfl⟩

theorem meaning_of_ok {build : Build α} {meaning : Except ConfigError μ} {a : α}
    (h : Means outcome build meaning) (ha : build.result = .ok a) : meaning = .ok (outcome a) := by
  rw [← h.result, ha]
  rfl

/-- Where a description means something, there is a checker of that meaning. -/
theorem exists_of_meaning {build : Build α} {meaning : Except ConfigError μ} {m : μ}
    (h : Means outcome build meaning) (hm : meaning = .ok m) :
    ∃ a, build.result = .ok a ∧ outcome a = m := by
  rw [← h.result] at hm
  cases hb : build.result with
  | error e =>
    rw [hb] at hm
    cases hm
  | ok a =>
    rw [hb] at hm
    exact ⟨a, rfl, Except.ok.inj hm⟩

/-- A build and its meaning come to the same errors. -/
theorem error_iff {build : Build α} {meaning : Except ConfigError μ}
    (h : Means outcome build meaning) (e : ConfigError) :
    build.result = .error e ↔ meaning = .error e := by
  rw [← h.result]
  cases build.result with
  | error e' => exact ⟨fun he => by cases he; rfl, fun he => by cases he; rfl⟩
  | ok a => exact ⟨fun he => (nomatch he), fun he => (nomatch he)⟩

/-- A compilation means what it comes to. -/
theorem compiled {build : Build α} {r : Except ConfigError α} (h : build = ofExcept r) :
    Means id build r := by
  subst h
  cases r <;> exact ⟨rfl, rfl⟩

theorem ofDecoded (r : Except ConfigError α) : Means id (Checker.decoded r) r := by
  cases r <;> exact ⟨rfl, rfl⟩

protected theorem bind {build : Build α} {meaning : Except ConfigError μ} {next : α → Build β}
    {next' : μ → Except ConfigError ν} (h : Means outcome build meaning)
    (hnext : ∀ a, Means outcome' (next a) (next' (outcome a))) :
    Means outcome' (build >>= next) (meaning >>= next') := by
  obtain ⟨rfl, hs⟩ := h
  cases hb : build.result with
  | error e =>
    refine ⟨?_, by rw [events_bind_error hb, hs]⟩
    rw [result_bind, hb]
    rfl
  | ok a =>
    refine ⟨?_, by rw [events_bind_ok hb, trace_append, hs, (hnext a).silent]; rfl⟩
    rw [result_bind, hb]
    exact (hnext a).result

/-- A conversion that keeps what is observed keeps the meaning. -/
theorem convert {build : Build α} {meaning : Except ConfigError μ} {outcome' : β → μ} {f : α → β}
    (h : Means outcome build meaning) (hf : ∀ a, outcome' (f a) = outcome a) :
    Means outcome' (do return f (← build)) meaning := by
  have hb : Means outcome' (do return f (← build)) (meaning >>= Except.ok) :=
    h.bind fun a => .pure (hf a)
  exact (bind_pure meaning) ▸ hb

end Build.Means

namespace Checker

mutual

/-- What a checker built from the description comes to on each value, or why there is none. -/
def meaning : Checker → Except ConfigError (Value → Outcome)
  | string options => return .ofRule (← StringRule.ofOptions options).violation?
  | stringDocument d => do
    return .ofRule (← StringRule.ofOptions (← StringOptions.ofJson d)).violation?
  | number options => return .ofRule (← NumberRule.ofOptions options).violation?
  | numberDocument d => do
    return .ofRule (← NumberRule.ofOptions (← NumberOptions.ofJson d)).violation?
  | pattern source =>
    return .ofRule (← (StringRule.readPattern source).map StringRule.ofPattern).violation?
  | boolean => return fun v => .silent v.isBoolean
  | function => return fun v => .silent v.isFunction
  | defined => return fun v => .silent v.isDefined
  | oneOf choices => return .ofRule (ChoiceRule.mk choices).violation?
  | oneOfValue choices => return .ofRule (← ChoiceRule.ofValue choices).violation?
  | instanceOf classes => return .ofRule (← InstanceRule.ofClasses classes).violation?
  | instanceOfValues candidates => return .ofRule (← InstanceRule.ofValues candidates).violation?
  | datatype name => return .ofRule (← DatatypeRule.ofName name).violation?
  | all checkers => do
    let outcomes ← meanings checkers
    return fun v => .every (outcomes.map (· v))
  | any checkers => do
    let outcomes ← meanings checkers
    return fun v => .either (outcomes.map (· v))
  | optional c => return .ofOptional (← c.meaning)
  | arrayOf c => return .ofArray .unbounded (some (← c.meaning))
  | array element min max => do
    let element ← meaning? element
    return .ofArray (← LengthRule.ofBounds none min max) element
  | object nullable properties =>
    return .ofObject (.ofList nullable (← meaningEntries properties))
  | custom accepts => return fun v => .silent (accepts v)
  | probe name accepts => return fun v => ⟨accepts v, [(.named name, v)]⟩
  | attempt name check => return fun v => ⟨(check v).toOption.getD false, [(.named name, v)]⟩
  | ofValidator c => c.meaning
  | toValidator c => c.meaning
  | fallible c => return .orFailing c.meaning
  | reporting report => return fun v => .silent (report v).passed
  | within c _ => c.meaning

def meanings : List Checker → Except ConfigError (List (Value → Outcome))
  | [] => return []
  | c :: rest => return (← c.meaning) :: (← meanings rest)

def meaning? : Option Checker → Except ConfigError (Option (Value → Outcome))
  | none => return none
  | some c => return some (← c.meaning)

def meaningEntries :
    List (String × Checker) → Except ConfigError (List (String × (Value → Outcome)))
  | [] => return []
  | (name, c) :: rest => return (name, ← c.meaning) :: (← meaningEntries rest)

end

end Checker

namespace Validator

/-- A validator that is made of a rule means what the rule decides. -/
theorem means_ofRule {ρ : Type} {build : Build ρ} {rule : Except ConfigError ρ}
    (h : build = .ofExcept rule) (violation? : ρ → Value → Option Violation) :
    Build.Means outcome (do return ofRule (violation? (← build)))
      (do return .ofRule (violation? (← rule))) :=
  (Build.Means.compiled h).bind fun _ => .pure rfl

theorem means_array (options : ArrayOptions Validator) :
    Build.Means outcome (array options) (do
      let length ← LengthRule.ofBounds none options.minLength options.maxLength
      return .ofArray length (options.element.map outcome)) := by
  refine (Build.Means.compiled (LengthRule.compile_eq _ _ _)).bind fun length =>
    .pure (funext fun v => ?_)
  change _ = Outcome.ofArray length _ v
  cases v with
  | array _ items =>
    simp only [outcome, Outcome.ofArray]
    split
    · rfl
    · cases options.element with
      | none => rfl
      | some element => exact outcome_everyValue element items
  | _ => rfl

end Validator

namespace Inspector

theorem outcome_ofRule (violation? : Value → Option Violation) :
    (ofRule violation?).outcome = Outcome.ofRule violation? := by
  funext v
  exact congrArg Outcome.silent (Report.passed_ofViolation? (violation? v))

/-- A type that is built in is decided by its predicate, without a call. -/
theorem outcome_ofType (name : String) (isOf : Value → Bool) :
    (ofRule (typeViolation? name isOf)).outcome = fun v => .silent (isOf v) := by
  rw [outcome_ofRule]
  funext v
  cases h : isOf v <;> simp [Outcome.ofRule, typeViolation?, h]

theorem means_ofRule {ρ : Type} {build : Build ρ} {rule : Except ConfigError ρ}
    (h : build = .ofExcept rule) (violation? : ρ → Value → Option Violation) :
    Build.Means outcome (do return ofRule (violation? (← build)))
      (do return .ofRule (violation? (← rule))) :=
  (Build.Means.compiled h).bind fun _ => .pure (outcome_ofRule _)

theorem outcome_ofValidator (p : Validator) : (ofValidator p).outcome = p.outcome := by
  funext v
  simp [ofValidator, outcome, Recorded.outcome, Validator.outcome]

theorem outcome_toValidator (i : Inspector) : i.toValidator.outcome = i.outcome := by
  funext v
  exact outcome_check i v

theorem outcome_fallible (check : Value → ExceptT String Recorded Bool) (v : Value) :
    (fallible check).outcome v =
      ⟨(check v).run.value.toOption.getD false, trace (check v).run.events⟩ := by
  unfold fallible outcome
  cases h : (check v).run.value with
  | ok b => simp [Recorded.outcome, h, Except.toOption]
  | error text =>
    simp [Recorded.outcome, h, Except.toOption, Report.constraint, Report.passed, trace,
      Event.probe?]

/-- A probe that breaks down counts as a failure, and is called all the same. -/
theorem outcome_attempt (name : String) (check : Value → Except String Bool) :
    (attempt name check).outcome =
      fun v => ⟨(check v).toOption.getD false, [(.named name, v)]⟩ := by
  funext v
  exact outcome_fallible _ v

/-- A check that is built anew fails if it cannot be built. -/
theorem outcome_rebuilt {build : Build Inspector} (h : trace build.events = []) :
    (rebuilt build).outcome = Outcome.orFailing (outcome <$> build.result) := by
  funext v
  refine (outcome_fallible _ v).trans ?_
  cases build with
  | mk value events =>
    replace h : trace events = [] := h
    cases value with
    | error e =>
      change Outcome.mk false (trace ((events ++ []) ++ [])) = .silent false
      simp [h, Outcome.silent]
    | ok i =>
      change Outcome.mk (i.check v).value (trace ((events ++ []) ++ ((i.check v).events ++ []))) =
        i.outcome v
      simp [h, outcome, Recorded.outcome]

/-- Building again for each check means what building once does, save that a build that fails means
a check that never passes. -/
theorem means_rebuilt {build : Build Inspector} {meaning : Except ConfigError (Value → Outcome)}
    (h : Build.Means outcome build meaning) :
    Build.Means outcome (pure (rebuilt build)) (.ok (.orFailing meaning)) := by
  obtain ⟨rfl, hs⟩ := h
  exact .pure (outcome_rebuilt hs)

/-- A prefix changes no verdict and no call. -/
theorem outcome_within (i : Inspector) (wrap : String → String) :
    (i.within wrap).outcome = i.outcome := by
  funext v
  change ((·.within wrap) <$> i.inspect v).outcome Report.passed = _
  rw [← outcome_inspect i]
  simp [Recorded.outcome]

end Inspector

namespace Checker

open Build (Means)

-- One induction for both kinds: a node may turn one kind of checker into the other.
mutual

/-- The validator of a description means what the description does. -/
theorem validator_means : ∀ c : Checker, Means Validator.outcome c.validator c.meaning
  | string _ => Validator.means_ofRule (StringRule.compile_eq _) _
  | number _ => Validator.means_ofRule (NumberRule.compile_eq _) _
  | pattern _ => Validator.means_ofRule (StringRule.compilePattern_eq _) _
  | oneOfValue _ => Validator.means_ofRule (ChoiceRule.compile_eq _) _
  | instanceOf _ => Validator.means_ofRule (InstanceRule.compile_eq _) _
  | instanceOfValues _ => Validator.means_ofRule (InstanceRule.compileValues_eq _) _
  | datatype _ => Validator.means_ofRule (DatatypeRule.compile_eq _) _
  | stringDocument _ =>
    (Means.ofDecoded _).bind fun _ => Validator.means_ofRule (StringRule.compile_eq _) _
  | numberDocument _ =>
    (Means.ofDecoded _).bind fun _ => Validator.means_ofRule (NumberRule.compile_eq _) _
  | boolean | function | defined | oneOf _ | custom _ | probe _ _ => .pure rfl
  | all checkers => by
    refine (validators_mean checkers).bind fun validators => .pure (funext fun v => ?_)
    rw [Validator.outcome_all, List.map_map]
    rfl
  | any checkers => by
    refine (validators_mean checkers).bind fun validators => .pure (funext fun v => ?_)
    rw [Validator.outcome_any, List.map_map]
    rfl
  | optional c => (validator_means c).bind fun p => .pure (funext p.outcome_optional)
  | arrayOf c => (validator_means c).bind fun p => .pure p.outcome_arrayOf
  | array element min max =>
    (validator?_means element).bind fun element => Validator.means_array ⟨element, min, max⟩
  | object nullable properties => by
    refine (validatorEntries_mean properties).bind fun entries => .pure ?_
    rw [Validator.outcome_object, ObjectOptions.map_ofList]
  | attempt name check => .pure (by rw [Inspector.outcome_toValidator, Inspector.outcome_attempt])
  | ofValidator c => validator_means c
  | toValidator c => (inspector_means c).convert fun i => i.outcome_toValidator
  | fallible c => by
    refine (Inspector.means_rebuilt (inspector_means c)).convert fun i => i.outcome_toValidator
  | reporting report => .pure (funext fun _ => rfl)
  | within c wrap => (inspector_means c).convert fun i => by
      rw [Inspector.outcome_toValidator, Inspector.outcome_within]

theorem validators_mean : ∀ cs : List Checker,
    Means (List.map Validator.outcome) (validators cs) (meanings cs)
  | [] => .pure rfl
  | c :: rest =>
    (validator_means c).bind fun _ => (validators_mean rest).bind fun _ => .pure rfl

theorem validator?_means : ∀ c : Option Checker,
    Means (Option.map Validator.outcome) (validator? c) (meaning? c)
  | none => .pure rfl
  | some c => (validator_means c).bind fun _ => .pure rfl

theorem validatorEntries_mean : ∀ entries : List (String × Checker),
    Means (List.map fun p => (p.1, p.2.outcome)) (validatorEntries entries)
      (meaningEntries entries)
  | [] => .pure rfl
  | (_, c) :: rest =>
    (validator_means c).bind fun _ => (validatorEntries_mean rest).bind fun _ => .pure rfl

/-- The inspector of a description means the same. -/
theorem inspector_means : ∀ c : Checker, Means Inspector.outcome c.inspector c.meaning
  | string _ => Inspector.means_ofRule (StringRule.compile_eq _) _
  | number _ => Inspector.means_ofRule (NumberRule.compile_eq _) _
  | oneOfValue _ => Inspector.means_ofRule (ChoiceRule.compile_eq _) _
  | instanceOf _ => Inspector.means_ofRule (InstanceRule.compile_eq _) _
  | instanceOfValues _ => Inspector.means_ofRule (InstanceRule.compileValues_eq _) _
  | datatype _ => Inspector.means_ofRule (DatatypeRule.compile_eq _) _
  | stringDocument _ =>
    (Means.ofDecoded _).bind fun _ => Inspector.means_ofRule (StringRule.compile_eq _) _
  | numberDocument _ =>
    (Means.ofDecoded _).bind fun _ => Inspector.means_ofRule (NumberRule.compile_eq _) _
  | pattern _ =>
    (Validator.means_ofRule (StringRule.compilePattern_eq _) _).convert
      Inspector.outcome_ofValidator
  | boolean | function | defined => .pure (Inspector.outcome_ofType _ _)
  | oneOf choices => .pure (Inspector.outcome_ofRule _)
  | all checkers => by
    refine (inspectors_mean checkers).bind fun inspectors => .pure (funext fun v => ?_)
    rw [Inspector.outcome_all, List.map_map]
    rfl
  | any checkers => by
    refine (inspectors_mean checkers).bind fun inspectors => .pure (funext fun v => ?_)
    rw [Inspector.outcome_any, List.map_map]
    rfl
  | optional c => (inspector_means c).bind fun i => .pure (funext i.outcome_optional)
  | arrayOf c => (inspector_means c).bind fun i => .pure (Inspector.outcome_arrayWith _ _)
  | array element min max =>
    (inspector?_means element).bind fun element =>
      (Means.compiled (LengthRule.compile_eq _ _ _)).bind fun length =>
        .pure (Inspector.outcome_arrayWith length element)
  | object nullable properties => by
    refine (inspectorEntries_mean properties).bind fun entries => .pure ?_
    rw [Inspector.outcome_object, ObjectOptions.map_ofList]
  | custom _ | probe _ _ => .pure (by rw [Inspector.outcome_ofValidator]; rfl)
  | attempt name check => .pure (Inspector.outcome_attempt name check)
  | ofValidator c => (validator_means c).convert fun p => Inspector.outcome_ofValidator p
  | toValidator c => (inspector_means c).convert fun i => by
      rw [Inspector.outcome_ofValidator, Inspector.outcome_toValidator]
  | fallible c => Inspector.means_rebuilt (inspector_means c)
  | reporting report => .pure (funext fun _ => rfl)
  | within c wrap => (inspector_means c).convert fun i => i.outcome_within wrap

theorem inspectors_mean : ∀ cs : List Checker,
    Means (List.map Inspector.outcome) (inspectors cs) (meanings cs)
  | [] => .pure rfl
  | c :: rest =>
    (inspector_means c).bind fun _ => (inspectors_mean rest).bind fun _ => .pure rfl

theorem inspector?_means : ∀ c : Option Checker,
    Means (Option.map Inspector.outcome) (inspector? c) (meaning? c)
  | none => .pure rfl
  | some c => (inspector_means c).bind fun _ => .pure rfl

theorem inspectorEntries_mean : ∀ entries : List (String × Checker),
    Means (List.map fun p => (p.1, p.2.outcome)) (inspectorEntries entries)
      (meaningEntries entries)
  | [] => .pure rfl
  | (_, c) :: rest =>
    (inspector_means c).bind fun _ => (inspectorEntries_mean rest).bind fun _ => .pure rfl

end

end Checker

end Conform
