import Conform.Assertion

/-! Assertions for single use. The bounds that they are given are checked on every call, and faulty
bounds are raised as a failure of their own. -/

namespace Conform.Assert

def violated (origin : String) (v : Violation) : Recorded (Option Failure) :=
  Failure.raise ⟨v.kind, v.text, origin⟩

def violated? (origin : String) : Option Violation → Recorded (Option Failure)
  | none => return none
  | some v => violated origin v

/-- Goes on with what was built, or raises the reason why it could not be. -/
def configured {α : Type} (origin : String) (build : Build α)
    (next : α → Recorded (Option Failure)) : Recorded (Option Failure) := do
  match ← build.run with
  | .ok a => next a
  | .error e => Failure.raise ⟨.error, e.text, origin⟩

def ofDatatype (origin : String) (expected : Datatype) (v : Value) : Recorded (Option Failure) :=
  if v.datatype = expected then return none
  else violated origin (.wrongType expected.name v.datatype)

/-- The value is truthy. -/
def ok (v : Value) (message : String) (kind : ErrorKind) : Recorded (Option Failure) :=
  if v.isTruthy then return none
  else Failure.raise ⟨kind, if message = "" then "assertion failed" else message, "assert"⟩

def defined (v : Value) : Recorded (Option Failure) :=
  if v.isDefined then return none
  else Failure.raise ⟨.typeError, "expected to be defined", "assert.defined"⟩

def boolean : Value → Recorded (Option Failure) := ofDatatype "assert.boolean" .boolean

def function : Value → Recorded (Option Failure) := ofDatatype "assert.function" .function

def ofNumberOptions (origin : String) (options : NumberOptions) (v : Value) :
    Recorded (Option Failure) :=
  configured origin (NumberRule.compile options) fun rule => violated? origin (rule.violation? v)

def number (v : Value) (min max : Option Number) : Recorded (Option Failure) :=
  ofNumberOptions "assert.number" ⟨min, max, false⟩ v

/-- An integer, by default one that is safe. -/
def integer (v : Value) (min max : Option Number) : Recorded (Option Failure) :=
  ofNumberOptions "assert.number.integer"
    ⟨some (min.getD minSafeInteger), some (max.getD maxSafeInteger), true⟩ v

def string (v : Value) (pattern : Option String) (min max : Option Nat) :
    Recorded (Option Failure) :=
  configured "assert.string" (StringRule.compile ⟨pattern, none, min, max⟩) fun rule =>
    violated? "assert.string" (rule.violation? v)

/-- The first entry that does not pass, checked in order. -/
def firstBadEntry (v : Value) :
    List (String × (Value → String → Recorded Bool)) → Recorded (Option String)
  | [] => return none
  | (key, check) :: rest => do
    if ← check (v.property key) key then firstBadEntry v rest else return some key

/-- A value of the object datatype that is not null, and whose listed entries pass. -/
def object (v : Value) (entries : List (String × (Value → String → Recorded Bool))) :
    Recorded (Option Failure) := do
  if v.datatype ≠ .object then violated "assert.object" (.wrongType Datatype.object.name v.datatype)
  else if v.isNull then violated "assert.object" .isNull
  else
    match ← firstBadEntry v entries with
    | none => return none
    | some key =>
      Failure.raise ⟨.error, "expected entry \"" ++ key ++ "\" is invalid", "assert.object"⟩

def instanceOf (v : Value) (classes : List Class) : Recorded (Option Failure) :=
  configured "assert.instance" (InstanceRule.compile classes) fun rule =>
    violated? "assert.instance" (rule.violation? v)

/-- The index of the first element that does not pass, checked in order. -/
def firstBadElement (check : Value → Nat → Recorded Bool) (index : Nat) :
    List Value → Recorded (Option Nat)
  | [] => return none
  | v :: rest => do
    if ← check v index then firstBadElement check (index + 1) rest else return some index

/-- An array whose elements pass, and then whose length is admitted. -/
def array (v : Value) (element : Option (Value → Nat → Recorded Bool)) (min max : Option Nat) :
    Recorded (Option Failure) :=
  match v with
  | .array _ items =>
    configured "assert.array" (LengthRule.compile none min max) fun length => do
      let bad ←
        match element with
        | none => pure none
        | some check => firstBadElement check 0 items
      match bad with
      | some index =>
        Failure.raise
          ⟨.error, "expected entry [" ++ Nat.repr index ++ "] is invalid", "assert.array"⟩
      | none => violated? "assert.array" (length.violation? items.length)
  | v => violated "assert.array" (.wrongType "array" v.datatype)

/-- A check that is not written yet never passes. -/
def todo (message : String) : Recorded (Option Failure) :=
  Failure.raise
    ⟨.notImplemented, if message = "" then "not implemented" else message, "assert.todo"⟩

end Conform.Assert
