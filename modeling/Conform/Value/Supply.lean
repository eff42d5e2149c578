import Conform.Entries
import Conform.Json.Basic
import Conform.Value.Basic

/-! New values: a supply of identities, each given out once. -/

namespace Conform

/-- A computation that may take identities; the state is the next one to be given out. -/
abbrev Supply := StateM Nat

namespace Supply

def identity : Supply Nat := modifyGet fun next => (next, next + 1)

def newClass (name : String) (parent : Option Class) : Supply Class := do
  let id ← identity
  return match parent with
    | none => .base id name
    | some parent => .derived id name parent

def newSymbol (description : String) : Supply Value := return .symbol (← identity) description

def newArray (items : List Value) : Supply Value := return .array (← identity) items

/-- An object, of a class if one is given. A repeated key keeps its first place and takes its last
value. -/
def newObject (cls : Option Class) (entries : List (String × Value)) : Supply Value :=
  return .object (← identity) cls (Entries.ofList entries)

def newRegexp (pattern : Pattern) : Supply Value := return .regexp (← identity) pattern

def newFunction (name : String) : Supply Value := return .function (.plain (← identity) name)

def newConstructor (cls : Class) : Supply Value := return .function (.constructor (← identity) cls)

end Supply

namespace Value

mutual

/-- The value that a document describes, all of its arrays and objects new. -/
def ofJson : Json → Supply Value
  | .null => return null
  | .boolean b => return boolean b
  | .number n => return number n.number
  | .string s => return string s
  | .array items => do Supply.newArray (← ofJsonItems items)
  | .object members => do Supply.newObject none (← ofJsonMembers members)

def ofJsonItems : List Json → Supply (List Value)
  | [] => return []
  | item :: rest => return (← ofJson item) :: (← ofJsonItems rest)

def ofJsonMembers : List (String × Json) → Supply (List (String × Value))
  | [] => return []
  | (key, item) :: rest => return (key, ← ofJson item) :: (← ofJsonMembers rest)

end

end Value

end Conform
