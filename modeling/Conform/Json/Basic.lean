import Conform.Number.Text
import Conform.Text.Quoted

/-! JSON documents whose objects keep the order of their members. -/

namespace Conform

/-- An integer that fits 64 bits, with a sign or without. -/
abbrev Fits64 (n : Int) : Prop := -0x8000000000000000 ≤ n ∧ n < 0x10000000000000000

/-- A number of a document: an integer that fits 64 bits, or else a binary64 number. -/
inductive Numeral where
  | integer (value : Int) (fits : Fits64 value)
  | float (value : Number)
deriving DecidableEq

namespace Numeral

def ofInt (n : Int) : Numeral :=
  if h : Fits64 n then integer n h else float (Number.ofInt n)

def number : Numeral → Number
  | integer n _ => Number.ofInt n
  | float x => x

def text : Numeral → String
  | integer n _ => Number.signText (n < 0) ++ Nat.repr n.natAbs
  | float x => x.literalText

end Numeral

inductive Json where
  | null
  | boolean (value : Bool)
  | number (value : Numeral)
  | string (text : String)
  | array (items : List Json)
  | object (members : List (String × Json))

namespace Json

mutual

/-- The compact written form. -/
def render : Json → String
  | null => "null"
  | boolean b => if b then "true" else "false"
  | number n => n.text
  | string s => Text.quoted s
  | array items => "[" ++ ",".intercalate (renderItems items) ++ "]"
  | object members => "\x7b" ++ ",".intercalate (renderMembers members) ++ "\x7d"

def renderItems : List Json → List String
  | [] => []
  | item :: rest => item.render :: renderItems rest

def renderMembers : List (String × Json) → List String
  | [] => []
  | (key, value) :: rest => (Text.quoted key ++ ":" ++ value.render) :: renderMembers rest

end

end Json

end Conform
