import Conform.Assertion

/-! Checkers that need no options, under their names. -/

namespace Conform.Prebuilt

/-- The predicates on values by name. -/
def predicates : List (String × (Value → Bool)) :=
  [("null", Value.isNullish), ("defined", Value.isDefined), ("array", Value.isArray),
    ("regexp", Value.isRegexp), ("function", Value.isFunction),
    ("function_array", Value.isFunctionArray), ("datatype", Value.isDatatype),
    ("string", Value.isString), ("boolean", Value.isBoolean), ("number", Value.isNumber),
    ("integer", Value.isInteger), ("object", Value.isObject), ("truthy", Value.isTruthy)]

structure Validators where
  null : Validator
  defined : Validator
  boolean : Validator
  number : Validator
  integer : Validator
  string : Validator
  array : Validator
  object : Validator
  regexp : Validator
  function : Validator
  functionArray : Validator
  datatype : Validator

def validators : Validators where
  null := .ofPredicate Value.isNullish
  defined := .ofPredicate Value.isDefined
  boolean := .ofPredicate Value.isBoolean
  number := .ofPredicate Value.isNumber
  integer := .ofPredicate Value.isInteger
  string := .ofPredicate Value.isString
  array := .ofPredicate Value.isArray
  object := .ofPredicate Value.isObject
  regexp := .ofPredicate Value.isRegexp
  function := .ofPredicate Value.isFunction
  functionArray := .ofPredicate Value.isFunctionArray
  datatype := .ofPredicate Value.isDatatype

def Validators.toList (v : Validators) : List (String × Validator) :=
  [("null", v.null), ("defined", v.defined), ("boolean", v.boolean), ("number", v.number),
    ("integer", v.integer), ("string", v.string), ("array", v.array), ("object", v.object),
    ("regexp", v.regexp), ("function", v.function), ("function_array", v.functionArray),
    ("datatype", v.datatype)]

structure Assertions where
  defined : Assertion
  boolean : Assertion
  number : Assertion
  integer : Assertion
  string : Assertion
  array : Assertion
  object : Assertion
  function : Assertion

def assertions : Assertions where
  defined := .ofInspector "assert.defined" .defined
  boolean := .ofInspector "assert.boolean" .boolean
  number := .ofInspector "assert.number" (.ofRule NumberRule.unbounded.violation?)
  integer := .ofInspector "assert.number.integer" (.ofRule NumberRule.safeIntegers.violation?)
  string := .ofInspector "assert.string" (.ofRule StringRule.any.violation?)
  array := .ofInspector "assert.array" .anyArray
  object := .ofInspector "assert.object" (.object .none)
  function := .ofInspector "assert.function" .function

def Assertions.toList (a : Assertions) : List (String × Assertion) :=
  [("defined", a.defined), ("boolean", a.boolean), ("number", a.number), ("integer", a.integer),
    ("string", a.string), ("array", a.array), ("object", a.object), ("function", a.function)]

end Conform.Prebuilt
