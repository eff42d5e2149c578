import Conform.Value.Basic

/-! Predicates on single values. -/

namespace Conform.Value

def isDefined : Value → Bool
  | undefined => false
  | _ => true

def isNull : Value → Bool
  | null => true
  | _ => false

def isArray (v : Value) : Bool := v.items?.isSome

def isRegexp : Value → Bool
  | regexp _ _ => true
  | _ => false

def isFunction (v : Value) : Bool := v.function?.isSome

def isFunctionArray (v : Value) : Bool := v.items?.any (·.all isFunction)

/-- A string that names a datatype. -/
def isDatatype (v : Value) : Bool := v.text?.any fun s => (Datatype.ofName? s).isSome

def isString (v : Value) : Bool := v.text?.isSome

def isBoolean : Value → Bool
  | boolean _ => true
  | _ => false

def isNumber (v : Value) : Bool := v.number?.isSome

def isInteger (v : Value) : Bool := v.number?.any (·.isIntegral)

/-- Of the object datatype, and not null. -/
def isObject (v : Value) : Bool := v.datatype = .object && !v.isNull

theorem isObject_iff {v : Value} : v.isObject = true ↔ v.datatype = .object ∧ v.isNull = false := by
  simp [isObject]

end Conform.Value
