import Conform.Proofs.Likeness
import Conform.Proofs.Meaning

/-! What inspectors say of a value: nothing, or the kind and the text of a failing report. What a
combination of inspectors says is one function of what its parts say. -/

namespace Conform

/-- What is said of each value. -/
abbrev Saying := Value → Option (ErrorKind × String)

namespace Saying

/-- The first failure. -/
def all (sayings : List Saying) : Saying := fun v => sayings.findSome? (· v)

/-- Nothing if one of them says nothing, else the last failure. -/
def any (sayings : List Saying) : Saying := fun v =>
  if sayings.any fun s => (s v).isNone then none
  else
    match sayings.getLast? with
    | none => some (.error, "expected at least one alternative")
    | some last => (last v).map fun said => (said.1, "no alternative matched, last: " ++ said.2)

def optional (s : Saying) : Saying := fun v => if v.isNullish then none else s v

/-- The first failure of an element. -/
def elements (s : Saying) (start : Nat) : List Value → Option (ErrorKind × String)
  | [] => none
  | v :: rest =>
    (s v).map (fun said => (said.1, "for index " ++ Nat.repr start ++ ", " ++ said.2)) <|>
      elements s (start + 1) rest

def array (length : LengthRule) (element : Option Saying) : Saying
  | .array _ items =>
    (length.violation? items.length).map (fun x => (x.kind, x.text)) <|>
      element.bind fun s => s.elements 0 items
  | v => (Report.ofViolation (.wrongType "array" v.datatype)).complaint?

/-- The first failure of a property. -/
def properties (entries : List (String × Saying)) : Saying := fun v =>
  entries.findSome? fun p =>
    (p.2 (v.property p.1)).map fun said => (said.1, "for property " ++ p.1 ++ ", " ++ said.2)

def object (options : ObjectOptions Saying) : Saying := fun v =>
  if v.datatype = .object then
    if v.isNull then
      if options.optional then none else (Report.ofViolation .isNull).complaint?
    else properties options.properties v
  else (Report.ofViolation (.wrongType Datatype.object.name v.datatype)).complaint?

/-- Of what fails, only that it does. -/
def bare (s : Saying) : Saying := fun v => (s v).map fun _ => (.error, "invalid value")

/-- What there is to say, or else the reason why there is nothing to ask. -/
def orReason : Except ConfigError Saying → Saying
  | .ok s => s.bare
  | .error e => fun _ => some (.error, e.text)

def within (s : Saying) (wrap : String → String) : Saying := fun v =>
  (s v).map fun said => (said.1, wrap said.2)

end Saying

namespace Inspector

variable {v : Value}

/-- What the report on a value says. -/
def saying (i : Inspector) : Saying := fun v => (i.run v).value.complaint?

theorem passed_eq_isNone_saying (i : Inspector) (v : Value) :
    (i.run v).value.passed = (i.saying v).isNone := Report.passed_eq_isNone _

/-- A conjunction says what the first of its inspectors with something to say does. -/
theorem saying_all (inspectors : List Inspector) :
    (Inspector.all inspectors).saying = .all (inspectors.map saying) := by
  funext v
  induction inspectors with
  | nil => rfl
  | cons i rest ih =>
    rw [Saying.all, List.map_cons, List.findSome?_cons, saying, value_all_cons,
      passed_eq_isNone_saying]
    cases hi : i.saying v with
    | none => exact ih
    | some said => exact hi

theorem saying_any_go (last : Report) (inspectors : List Inspector) (v : Value) :
    (any.go last inspectors v).value.complaint? =
      if inspectors.any fun i => (i.saying v).isNone then none
      else
        match inspectors.getLast? with
        | none => last.complaint?
        | some i =>
          (i.saying v).map fun said => (said.1, "no alternative matched, last: " ++ said.2) := by
  induction inspectors generalizing last with
  | nil => rfl
  | cons i rest ih =>
    rw [value_any_go_cons, passed_eq_isNone_saying, List.any_cons]
    cases hi : i.saying v with
    | none => exact hi
    | some said =>
      rw [Option.isNone_some, if_neg Bool.false_ne_true, ih, Bool.false_or, List.getLast?_cons]
      cases rest.getLast? with
      | none => rw [Report.complaint?_within]; rfl
      | some j => rfl

/-- A choice says what its last alternative does, unless one of them says nothing. -/
theorem saying_any (inspectors : List Inspector) :
    (Inspector.any inspectors).saying = .any (inspectors.map saying) := by
  funext v
  refine (saying_any_go _ inspectors v).trans ?_
  rw [Saying.any, List.any_map, List.getLast?_map]
  cases inspectors.getLast? <;> rfl

theorem saying_optional (i : Inspector) : i.optional.saying = i.saying.optional := by
  funext v
  rw [saying, value_optional, Saying.optional]
  split <;> rfl

theorem saying_elements (element : Inspector) (start : Nat) (items : List Value) :
    (element.elements start items).value.complaint? = element.saying.elements start items := by
  induction items generalizing start with
  | nil => rfl
  | cons w rest ih =>
    rw [value_elements_cons, passed_eq_isNone_saying, Saying.elements, ← ih]
    cases hw : element.saying w with
    | none => rfl
    | some said => exact (Report.complaint?_within _ _).trans (congrArg (Option.map _) hw)

/-- What is said of an array is said of its length, or else of an element. -/
theorem saying_arrayWith (length : LengthRule) (element : Option Inspector) :
    (arrayWith length element).saying = .array length (element.map saying) := by
  funext v
  cases v with
  | array id items =>
    simp only [saying, arrayWith, Saying.array]
    cases length.violation? items.length with
    | some x => rfl
    | none =>
      cases element with
      | none => rfl
      | some element => exact saying_elements element 0 items
  | _ => rfl

theorem saying_properties (properties : List (String × Inspector)) (v : Value) :
    (object.properties properties v).value.complaint? =
      Saying.properties (properties.map fun p => (p.1, p.2.saying)) v := by
  induction properties with
  | nil => rfl
  | cons p rest ih =>
    rw [value_properties_cons, passed_eq_isNone_saying, Saying.properties, List.map_cons,
      List.findSome?_cons]
    cases hp : p.2.saying (v.property p.1) with
    | none =>
      simp only [hp]
      exact ih
    | some said =>
      simp only [hp]
      exact (Report.complaint?_within _ _).trans (congrArg (Option.map _) hp)

/-- What is said of an object is said of its type, or else of a property. -/
theorem saying_object (options : ObjectOptions Inspector) :
    (object options).saying = .object (options.map saying) := by
  obtain ⟨nullable, properties⟩ := options
  funext v
  simp only [saying, object, Saying.object, ObjectOptions.map]
  split
  · split
    · cases nullable <;> rfl
    · exact saying_properties properties v
  · rfl

/-- A validator says of a value no more than that it is invalid. -/
theorem saying_ofValidator {p : Validator} {i : Inspector} (h : i.outcome = p.outcome) :
    (ofValidator p).saying = i.saying.bare := by
  funext v
  have hpassed : (p.validate v).value = (i.saying v).isNone := by
    rw [← passed_eq_isNone_saying]
    exact (congrArg Outcome.passed (congrFun h v)).symm
  change (Report.ofBool (p.validate v).value).complaint? = _
  rw [hpassed, Saying.bare]
  cases i.saying v <;> rfl

/-- A check that is built anew says that the value is invalid, or why it could not be built. -/
theorem saying_rebuilt (build : Build Inspector) :
    (rebuilt build).saying = .orReason (saying <$> build.result) := by
  funext v
  cases build with
  | mk value events =>
    cases value with
    | error e => rfl
    | ok i =>
      change (Report.ofBool (i.check v).value).complaint? = i.saying.bare v
      rw [value_check, passed_eq_isNone_saying, Saying.bare]
      cases i.saying v <;> rfl

theorem saying_within (i : Inspector) (wrap : String → String) :
    (i.within wrap).saying = i.saying.within wrap := by
  funext v
  change ((i.inspect v).value.within wrap).complaint? = _
  rw [value_inspect, Report.complaint?_within]
  rfl

end Inspector

theorem mapM_map_eq {ε α β γ : Type} (f : α → Except ε β) (g : β → γ) (items : List α) :
    (items.mapM fun a => g <$> f a) = List.map g <$> items.mapM f := by
  induction items with
  | nil => rfl
  | cons a rest ih => simp [ih]

namespace Checker

/-- What the inspector of a description says, or why there is none. -/
def saying (c : Checker) : Except ConfigError Saying := Inspector.saying <$> c.inspector.result

/-- What the inspector under a name says. -/
def sayingEntry (p : String × Checker) : Except ConfigError (String × Saying) :=
  (p.1, ·) <$> p.2.saying

theorem result_inspectors (checkers : List Checker) :
    (inspectors checkers).result = checkers.mapM fun c => c.inspector.result := by
  induction checkers with
  | nil => rfl
  | cons c rest ih =>
    rw [List.mapM_cons, ← ih, inspectors, Build.result_bind]
    refine bind_congr fun i => ?_
    rw [Build.result_bind]
    rfl

theorem result_inspectorEntries (properties : List (String × Checker)) :
    (inspectorEntries properties).result =
      properties.mapM fun p => (p.1, ·) <$> p.2.inspector.result := by
  induction properties with
  | nil => rfl
  | cons p rest ih =>
    rw [List.mapM_cons, ← ih, inspectorEntries, Build.result_bind, bind_map_left]
    refine bind_congr fun i => ?_
    rw [Build.result_bind]
    rfl

variable {c d : Checker}

/-- What is made of one inspector. -/
theorem saying_ofInspector {f : Inspector → Inspector} {g : Saying → Saying}
    (hd : d.inspector = do return f (← c.inspector)) (hf : ∀ i, (f i).saying = g i.saying) :
    d.saying = g <$> c.saying := by
  rw [saying, saying, hd, Build.result_bind]
  cases c.inspector.result with
  | error e => rfl
  | ok i => exact congrArg Except.ok (hf i)

/-- What is made of several inspectors. -/
theorem saying_ofInspectors {checkers : List Checker} {f : List Inspector → Inspector}
    {g : List Saying → Saying} (hd : d.inspector = do return f (← inspectors checkers))
    (hf : ∀ is, (f is).saying = g (is.map Inspector.saying)) :
    d.saying = g <$> checkers.mapM saying := by
  have hlist : checkers.mapM saying =
      List.map Inspector.saying <$> (inspectors checkers).result := by
    rw [result_inspectors]
    exact mapM_map_eq _ _ _
  rw [hlist, saying, hd, Build.result_bind]
  cases (inspectors checkers).result with
  | error e => rfl
  | ok is => exact congrArg Except.ok (hf is)

theorem saying_all (checkers : List Checker) :
    (all checkers).saying = Saying.all <$> checkers.mapM saying :=
  saying_ofInspectors rfl Inspector.saying_all

theorem saying_any (checkers : List Checker) :
    (any checkers).saying = Saying.any <$> checkers.mapM saying :=
  saying_ofInspectors rfl Inspector.saying_any

theorem saying_optional (c : Checker) : (optional c).saying = Saying.optional <$> c.saying :=
  saying_ofInspector rfl Inspector.saying_optional

theorem saying_arrayOf (c : Checker) :
    (arrayOf c).saying = (Saying.array .unbounded ∘ some) <$> c.saying :=
  saying_ofInspector rfl fun i => Inspector.saying_arrayWith .unbounded (some i)

/-- The parts of a description of arrays are built before the bounds are looked at. -/
theorem saying_array (c : Checker) (min max : Option Nat) :
    (array (some c) min max).saying = (do
      let s ← c.saying
      let length ← LengthRule.ofBounds none min max
      return Saying.array length (some s)) := by
  rw [saying, saying, inspector, Build.result_bind, inspector?, Build.result_bind]
  cases c.inspector.result with
  | error e => rfl
  | ok i =>
    change Inspector.saying <$> (Inspector.array ⟨some i, min, max⟩).result = _
    rw [Inspector.array, Build.result_bind, LengthRule.result_compile]
    cases LengthRule.ofBounds none min max with
    | error e => rfl
    | ok length => exact congrArg Except.ok (Inspector.saying_arrayWith length (some i))

theorem saying_object (nullable : Bool) (properties : List (String × Checker)) :
    (object nullable properties).saying =
      (fun entries => Saying.object (.ofList nullable entries)) <$>
        properties.mapM sayingEntry := by
  have hlist : properties.mapM sayingEntry =
      List.map (fun p => (p.1, p.2.saying)) <$> (inspectorEntries properties).result := by
    rw [result_inspectorEntries, ← mapM_map_eq]
    refine congrArg (fun f => properties.mapM f) (funext fun p => ?_)
    simp [sayingEntry, saying]
  rw [hlist, saying, inspector, Build.result_bind]
  cases (inspectorEntries properties).result with
  | error e => rfl
  | ok entries =>
    refine congrArg Except.ok ?_
    rw [Inspector.saying_object, ObjectOptions.map_ofList]

theorem saying_ofValidator (c : Checker) : (ofValidator c).saying = Saying.bare <$> c.saying := by
  rw [saying, saying, inspector, Build.result_bind]
  cases hp : c.validator.result with
  | error e =>
    have hi := ((inspector_means c).error_iff e).mpr (((validator_means c).error_iff e).mp hp)
    rw [hi]
    rfl
  | ok p =>
    obtain ⟨i, hi, houtcome⟩ := (inspector_means c).exists_of_meaning
      ((validator_means c).meaning_of_ok hp)
    rw [hi]
    exact congrArg Except.ok (Inspector.saying_ofValidator houtcome)

theorem saying_toValidator (c : Checker) : (toValidator c).saying = Saying.bare <$> c.saying :=
  saying_ofInspector rfl fun i => Inspector.saying_ofValidator i.outcome_toValidator.symm

theorem saying_fallible (c : Checker) : (fallible c).saying = .ok (.orReason c.saying) :=
  congrArg Except.ok (Inspector.saying_rebuilt c.inspector)

theorem saying_within (c : Checker) (wrap : String → String) :
    (within c wrap).saying = (Saying.within · wrap) <$> c.saying :=
  saying_ofInspector rfl fun i => i.saying_within wrap

end Checker

end Conform
