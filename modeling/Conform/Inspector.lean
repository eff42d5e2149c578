import Conform.Report.Basic
import Conform.Validator

/-! Inspectors: checks that come to a report. Compound inspectors report their first failure, and
say where in the value it happened. -/

namespace Conform

structure Inspector where
  run : Value → Recorded Report

namespace Inspector

/-- Runs the inspector, and records it if the report is a failure. -/
def inspect (c : Inspector) (v : Value) : Recorded Report := do
  let report ← c.run v
  if !report.passed then Recorded.emit (.inspectionFailed report.kind)
  return report

@[simp] theorem value_inspect (c : Inspector) (v : Value) :
    (c.inspect v).value = (c.run v).value := by
  unfold inspect
  cases h : (c.run v).value.passed <;> simp [h]

theorem events_inspect (c : Inspector) (v : Value) :
    (c.inspect v).events = (c.run v).events ++
      if (c.run v).value.passed then [] else [.inspectionFailed (c.run v).value.kind] := by
  unfold inspect
  cases h : (c.run v).value.passed <;> simp [h]

/-- Runs the inspector for its verdict. -/
def check (c : Inspector) (v : Value) : Recorded Bool := return (← c.run v).passed

@[simp] theorem value_check (c : Inspector) (v : Value) :
    (c.check v).value = (c.run v).value.passed := by
  simp [check]

@[simp] theorem events_check (c : Inspector) (v : Value) :
    (c.check v).events = (c.run v).events := by
  simp [check]

def toValidator (c : Inspector) : Validator := ⟨c.check⟩

def ofReport (report : Value → Report) : Inspector := ⟨fun v => return report v⟩

def ofRule (violation? : Value → Option Violation) : Inspector :=
  ofReport fun v => .ofViolation? (violation? v)

def ofValidator (c : Validator) : Inspector := ⟨fun v => return .ofBool (← c.validate v)⟩

/-- A check that may break down. What it says then becomes the message of a failing report. -/
def fallible (check : Value → ExceptT String Recorded Bool) : Inspector :=
  ⟨fun v => do
    match ← (check v).run with
    | .ok b => return .ofBool b
    | .error text =>
      Recorded.emit (.checkFailed text)
      return .constraint fun _ => text⟩

/-- A check that leaves a trace of each value it is given, and that may break down. -/
def attempt (name : String) (check : Value → Except String Bool) : Inspector :=
  fallible fun v => do
    Recorded.emit (.probed (.named name) v)
    ExceptT.mk (pure (check v))

/-- Built anew for each check, which breaks down if that is not possible. -/
def rebuilt (build : Build Inspector) : Inspector :=
  fallible fun v => do
    let built ← ExceptT.adapt ConfigError.text build
    built.check v

def string (options : StringOptions) : Build Inspector :=
  return ofRule (← StringRule.compile options).violation?

def number (options : NumberOptions) : Build Inspector :=
  return ofRule (← NumberRule.compile options).violation?

/-- A value that fails a predicate is not of the type that it decides. -/
def typeViolation? (name : String) (isOf : Value → Bool) (v : Value) : Option Violation :=
  if isOf v then none else some (.wrongType name v.datatype)

def boolean : Inspector := ofRule (typeViolation? "boolean" Value.isBoolean)

def function : Inspector := ofRule (typeViolation? "function" Value.isFunction)

def defined : Inspector := ofRule (typeViolation? "defined" Value.isDefined)

def oneOf (choices : List Value) : Inspector := ofRule (ChoiceRule.mk choices).violation?

def oneOfValue (choices : Value) : Build Inspector :=
  return ofRule (← ChoiceRule.compile choices).violation?

def instanceOf (classes : List Class) : Build Inspector :=
  return ofRule (← InstanceRule.compile classes).violation?

def instanceOfValues (candidates : List Value) : Build Inspector :=
  return ofRule (← InstanceRule.compileValues candidates).violation?

def datatype (name : String) : Build Inspector :=
  return ofRule (← DatatypeRule.compile name).violation?

/-- The first failing report, left to right. -/
def all (inspectors : List Inspector) : Inspector := ⟨go inspectors⟩
where
  go : List Inspector → Value → Recorded Report
    | [], _ => return .pass
    | c :: rest, v => do
      let report ← c.inspect v
      if report.passed then go rest v else return report

/-- Passes with the first inspector that does. If none does, the last failure is reported. -/
def any (inspectors : List Inspector) : Inspector :=
  ⟨go (.constraint fun _ => "expected at least one alternative") inspectors⟩
where
  go (last : Report) : List Inspector → Value → Recorded Report
    | [], _ => return last
    | c :: rest, v => do
      let report ← c.inspect v
      if report.passed then return report
      else go (report.within ("no alternative matched, last: " ++ ·)) rest v

def optional (c : Inspector) : Inspector :=
  ⟨fun v => if v.isNullish then return .pass else c.inspect v⟩

/-- The report on the first of some elements that fails, the first of them at index `start`. -/
def elements (element : Inspector) (start : Nat) : List Value → Recorded Report
  | [] => return .pass
  | v :: rest => do
    let report ← element.inspect v
    if report.passed then element.elements (start + 1) rest
    else return report.within ("for index " ++ Nat.repr start ++ ", " ++ ·)

/-- An array of admitted length, then its elements in order. -/
def arrayWith (length : LengthRule) (element : Option Inspector) : Inspector :=
  ⟨fun
    | .array _ items =>
      match length.violation? items.length, element with
      | some violation, _ => return .ofViolation violation
      | none, some element => element.elements 0 items
      | none, none => return .pass
    | v => return .ofViolation (.wrongType "array" v.datatype)⟩

def array (options : ArrayOptions Inspector) : Build Inspector :=
  return arrayWith (← LengthRule.compile none options.minLength options.maxLength) options.element

def arrayOf (element : Inspector) : Inspector := arrayWith .unbounded (some element)

def anyArray : Inspector := arrayWith .unbounded none

/-- Of the object datatype, then not null unless that is optional, then its properties in order. -/
def object (options : ObjectOptions Inspector) : Inspector :=
  ⟨fun v =>
    if v.datatype = .object then
      if v.isNull then return if options.optional then .pass else .ofViolation .isNull
      else properties options.properties v
    else return .ofViolation (.wrongType Datatype.object.name v.datatype)⟩
where
  properties : List (String × Inspector) → Value → Recorded Report
    | [], _ => return .pass
    | (name, c) :: rest, v => do
      let report ← c.inspect (v.property name)
      if report.passed then properties rest v
      else return report.within ("for property " ++ name ++ ", " ++ ·)

/-- Says of every failure of an inspector where it happened. -/
def within (c : Inspector) (wrap : String → String) : Inspector :=
  ⟨fun v => return (← c.inspect v).within wrap⟩

end Inspector

end Conform
