import Conform.Rule.Compilation
import Conform.Value.Predicates
import Conform.Value.Property

/-! Validators: checks that come to a bare verdict. -/

namespace Conform

structure Validator where
  validate : Value → Recorded Bool

namespace Validator

def ofPredicate (accepts : Value → Bool) : Validator := ⟨fun v => return accepts v⟩

/-- A check that leaves a trace of each value it is given. -/
def probe (name : String) (accepts : Value → Bool) : Validator :=
  ⟨fun v => do
    Recorded.emit (.probed (.named name) v)
    return accepts v⟩

def ofRule (violation? : Value → Option Violation) : Validator :=
  ofPredicate fun v => (violation? v).isNone

def string (options : StringOptions) : Build Validator :=
  return ofRule (← StringRule.compile options).violation?

/-- A string in which the pattern occurs. -/
def pattern (source : String) : Build Validator :=
  return ofRule (← StringRule.compilePattern source).violation?

def number (options : NumberOptions) : Build Validator :=
  return ofRule (← NumberRule.compile options).violation?

def oneOf (choices : List Value) : Validator := ofRule (ChoiceRule.mk choices).violation?

def oneOfValue (choices : Value) : Build Validator :=
  return ofRule (← ChoiceRule.compile choices).violation?

def instanceOf (classes : List Class) : Build Validator :=
  return ofRule (← InstanceRule.compile classes).violation?

def instanceOfValues (candidates : List Value) : Build Validator :=
  return ofRule (← InstanceRule.compileValues candidates).violation?

def datatype (name : String) : Build Validator :=
  return ofRule (← DatatypeRule.compile name).violation?

/-- Whether all values pass, going no further than the first that does not. -/
def everyValue (element : Validator) : List Value → Recorded Bool
  | [] => return true
  | v :: rest => do if ← element.validate v then element.everyValue rest else return false

/-- Passes what passes all validators, left to right up to the first failure. -/
def all (validators : List Validator) : Validator := ⟨go validators⟩
where
  go : List Validator → Value → Recorded Bool
    | [], _ => return true
    | c :: rest, v => do if ← c.validate v then go rest v else return false

/-- Passes what passes one of the validators, left to right up to the first success. -/
def any (validators : List Validator) : Validator := ⟨go validators⟩
where
  go : List Validator → Value → Recorded Bool
    | [], _ => return false
    | c :: rest, v => do if ← c.validate v then return true else go rest v

def optional (c : Validator) : Validator :=
  ⟨fun v => if v.isNullish then return true else c.validate v⟩

def arrayOf (element : Validator) : Validator :=
  ⟨fun
    | .array _ items => element.everyValue items
    | _ => return false⟩

def array (options : ArrayOptions Validator) : Build Validator := do
  let length ← LengthRule.compile none options.minLength options.maxLength
  return ⟨fun
    | .array _ items =>
      if (length.violation? items.length).isSome then return false
      else
        match options.element with
        | none => return true
        | some element => element.everyValue items
    | _ => return false⟩

/-- Of the object datatype, with every listed property passing. Null passes if it is optional, and
its properties are not looked at. -/
def object (options : ObjectOptions Validator) : Validator :=
  ⟨fun v =>
    if v.datatype = .object then
      if v.isNull then return options.optional else properties options.properties v
    else return false⟩
where
  properties : List (String × Validator) → Value → Recorded Bool
    | [], _ => return true
    | (name, c) :: rest, v => do
      if ← c.validate (v.property name) then properties rest v else return false

end Validator

end Conform
