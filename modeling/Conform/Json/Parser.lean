import Conform.Entries
import Conform.Json.Token

/-! Documents from tokens: unfinished arrays and objects wait on a stack. -/

namespace Conform.Json

/-- An unfinished container: what it holds so far, latest first. -/
inductive Frame where
  | array (items : List Json)
  | object (members : List (String × Json)) (key : String)

mutual

/-- Builds from tokens that start with a value. -/
def build? : List Token → List Frame → Option Json
  | .scalar value :: rest, stack => finish? value rest stack
  | .string s :: rest, stack => finish? (string s) rest stack
  | .openArray :: .closeArray :: rest, stack => finish? (array []) rest stack
  | .openArray :: rest, stack => build? rest (.array [] :: stack)
  | .openObject :: .closeObject :: rest, stack => finish? (object []) rest stack
  | .openObject :: .string key :: .colon :: rest, stack => build? rest (.object [] key :: stack)
  | _, _ => none

/-- Goes on from a value that is complete. -/
def finish? (value : Json) : List Token → List Frame → Option Json
  | [], [] => some value
  | .comma :: rest, .array items :: stack => build? rest (.array (value :: items) :: stack)
  | .closeArray :: rest, .array items :: stack =>
    finish? (array (value :: items).reverse) rest stack
  | .comma :: .string next :: .colon :: rest, .object members key :: stack =>
    build? rest (.object ((key, value) :: members) next :: stack)
  | .closeObject :: rest, .object members key :: stack =>
    finish? (object (Entries.ofList ((key, value) :: members).reverse)) rest stack
  | _, _ => none

end

/-- Reads the one document that makes up a text. -/
def parse? (s : String) : Option Json := do
  let tokens ← tokens? s.toList
  build? tokens []

end Conform.Json
