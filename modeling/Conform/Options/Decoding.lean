import Conform.Json.Basic
import Conform.Options.Basic
import Conform.Text.Escaped

/-! Options from documents: an object of named fields, or an array of the fields in order. The
first offending entry in document order is the one that is reported. -/

namespace Conform

/-- What a place in an options document calls for. -/
inductive Wanted where
  | string | length | number | boolean
  | stringOptions | numberOptions

def Wanted.text : Wanted → String
  | string => "a string"
  | length => "usize"
  | number => "f64"
  | boolean => "a boolean"
  | stringOptions => "struct StringOptions"
  | numberOptions => "struct NumberOptions"

inductive OptionsFault where
  | unknownField (key : String) (fields : List String)
  | wrongType (got : Json) (wanted : Wanted)
  | negativeLength (value : Int)
  | missingElements (count : Nat) (wanted : Wanted) (fields : Nat)
  | extraElements (count : Nat)

/-- How a document is named when it is out of place. -/
def Json.outline : Json → String
  | .null => "null"
  | .boolean b => "boolean \x60" ++ (if b then "true" else "false") ++ "\x60"
  | .number (.integer n h) => "integer \x60" ++ (Numeral.integer n h).text ++ "\x60"
  | .number (.float x) => "floating point \x60" ++ x.literalText ++ "\x60"
  | .string s => "string " ++ Text.escaped s
  | .array _ => "sequence"
  | .object _ => "map"

def OptionsFault.text : OptionsFault → String
  | unknownField key fields =>
    let quote := fun (s : String) => "\x60" ++ s ++ "\x60"
    "unknown field " ++ quote key ++ ", expected one of " ++ ", ".intercalate (fields.map quote)
  | wrongType got wanted => "invalid type: " ++ got.outline ++ ", expected " ++ wanted.text
  | negativeLength value =>
    "invalid value: integer \x60-" ++ Nat.repr value.natAbs ++ "\x60, expected usize"
  | missingElements count wanted fields =>
    "invalid length " ++ Nat.repr count ++ ", expected " ++ wanted.text ++ " with " ++
      Nat.repr fields ++ " elements"
  | extraElements count =>
    "invalid length " ++ Nat.repr count ++ ", expected fewer elements in array"

namespace Json

/-- A field that null leaves unset. -/
def optional {α : Type} (decode : Json → Except OptionsFault α) :
    Json → Except OptionsFault (Option α)
  | null => .ok none
  | document => (decode document).map some

def asString : Json → Except OptionsFault String
  | string s => .ok s
  | got => .error (.wrongType got .string)

def asLength : Json → Except OptionsFault Nat
  | number (.integer n _) => if n < 0 then .error (.negativeLength n) else .ok n.toNat
  | got => .error (.wrongType got .length)

def asNumber : Json → Except OptionsFault Number
  | number n => .ok n.number
  | got => .error (.wrongType got .number)

def asBoolean : Json → Except OptionsFault Bool
  | boolean b => .ok b
  | got => .error (.wrongType got .boolean)

end Json

namespace StringOptions

def fields : List String := ["pattern", "length", "minLength", "maxLength"]

def setField (o : StringOptions) (key : String) (d : Json) : Except OptionsFault StringOptions :=
  if key = "pattern" then
    (Json.optional Json.asString d).map fun x => { o with pattern := x }
  else if key = "length" then
    (Json.optional Json.asLength d).map fun x => { o with length := x }
  else if key = "minLength" then
    (Json.optional Json.asLength d).map fun x => { o with minLength := x }
  else if key = "maxLength" then
    (Json.optional Json.asLength d).map fun x => { o with maxLength := x }
  else .error (.unknownField key fields)

/-- Sets the fields in turn from elements in field order. -/
def setInOrder (o : StringOptions) : List String → List Json → Except OptionsFault StringOptions
  | key :: keys, d :: rest => do setInOrder (← o.setField key d) keys rest
  | _, _ => .ok o

def decode : Json → Except OptionsFault StringOptions
  | .object members => members.foldlM (fun o member => o.setField member.1 member.2) none
  | .array items => do
    let options ← none.setInOrder fields items
    if items.length < 4 then .error (.missingElements items.length .stringOptions 4)
    else if 4 < items.length then .error (.extraElements items.length)
    else .ok options
  | got => .error (.wrongType got .stringOptions)

end StringOptions

namespace NumberOptions

def fields : List String := ["min", "max", "integer"]

def setField (o : NumberOptions) (key : String) (d : Json) : Except OptionsFault NumberOptions :=
  if key = "min" then (Json.optional Json.asNumber d).map fun x => { o with min := x }
  else if key = "max" then (Json.optional Json.asNumber d).map fun x => { o with max := x }
  else if key = "integer" then (Json.asBoolean d).map fun x => { o with integer := x }
  else .error (.unknownField key fields)

def setInOrder (o : NumberOptions) : List String → List Json → Except OptionsFault NumberOptions
  | key :: keys, d :: rest => do setInOrder (← o.setField key d) keys rest
  | _, _ => .ok o

/-- An array may leave out the last field. -/
def decode : Json → Except OptionsFault NumberOptions
  | .object members => members.foldlM (fun o member => o.setField member.1 member.2) none
  | .array items => do
    let options ← none.setInOrder fields items
    if items.length < 2 then .error (.missingElements items.length .numberOptions 3)
    else if 3 < items.length then .error (.extraElements items.length)
    else .ok options
  | got => .error (.wrongType got .numberOptions)

end NumberOptions

end Conform
