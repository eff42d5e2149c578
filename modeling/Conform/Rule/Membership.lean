import Conform.ConfigError
import Conform.Rule.Violation

/-! Membership in a list of values, in a list of classes, or in a datatype. -/

namespace Conform

structure ChoiceRule where
  choices : List Value

namespace ChoiceRule

/-- Choices that come as a value have to be an array. -/
def ofValue (v : Value) : Except ConfigError ChoiceRule :=
  match v.items? with
  | some items => .ok ⟨items⟩
  | none => .error (.invalidChoices v.datatype)

def violation? (r : ChoiceRule) (v : Value) : Option Violation :=
  if r.choices.any (·.strictEquals v) then none else some (.notAChoice r.choices v)

end ChoiceRule

/-- The class that a value constructs. -/
def Class.ofValue (v : Value) : Except ConfigError Class :=
  match v.class? with
  | some c => .ok c
  | none => .error (.notAClass v.datatype)

structure InstanceRule where
  classes : List Class
  nonempty : classes ≠ []

namespace InstanceRule

def ofClasses (classes : List Class) : Except ConfigError InstanceRule :=
  if h : classes = [] then .error .emptyClasses else .ok ⟨classes, h⟩

/-- Classes that come as values have to be constructors, every one of them. -/
def ofValues (candidates : List Value) : Except ConfigError InstanceRule := do
  ofClasses (← candidates.mapM Class.ofValue)

def violation? (r : InstanceRule) (v : Value) : Option Violation :=
  if r.classes.any v.instanceOf then none else some (.notAnInstance r.classes v)

end InstanceRule

structure DatatypeRule where
  datatype : Datatype
deriving DecidableEq

namespace DatatypeRule

def ofName (name : String) : Except ConfigError DatatypeRule :=
  match Datatype.ofName? name with
  | some d => .ok ⟨d⟩
  | none => .error (.unknownDatatype name)

def violation? (r : DatatypeRule) (v : Value) : Option Violation :=
  if v.datatype = r.datatype then none else some (.wrongDatatype r.datatype v.datatype)

end DatatypeRule

end Conform
