/-! The eight datatypes that values are told apart by. -/

namespace Conform

inductive Datatype where
  | undefined | boolean | number | bigint | string | symbol | object | function
deriving DecidableEq

namespace Datatype

def all : List Datatype :=
  [undefined, boolean, number, bigint, string, symbol, object, function]

def name : Datatype → String
  | undefined => "undefined"
  | boolean => "boolean"
  | number => "number"
  | bigint => "bigint"
  | string => "string"
  | symbol => "symbol"
  | object => "object"
  | function => "function"

def ofName? (name : String) : Option Datatype := all.find? fun d => d.name = name

theorem ofName?_name (d : Datatype) : ofName? d.name = some d := by
  cases d <;> rfl

end Datatype

end Conform
