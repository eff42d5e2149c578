import Conform.Json.Numeral
import Conform.Text.Hex

/-! Tokens of JSON text. Each scanner returns what is left of the text, which is never longer. -/

namespace Conform.Json

inductive Token where
  | openArray | closeArray | openObject | closeObject | comma | colon
  | string (text : String)
  | scalar (value : Json)

def isBlank (c : Char) : Bool := c = ' ' ∨ c = '\t' ∨ c = '\n' ∨ c = '\r'

def shortEscape? (c : Char) : Option Char :=
  [('"', '"'), ('\\', '\\'), ('/', '/'), ('b', '\x08'), ('f', '\x0c'), ('n', '\n'), ('r', '\r'),
    ('t', '\t')].lookup c

/-- The code units of a quoted text up to its closing quote, and the rest after the quote. -/
def scanUnits :
    (cs : List Char) → Option (List Nat × { rest : List Char // rest.length ≤ cs.length })
  | [] => none
  | '"' :: rest => some ([], ⟨rest, by simp⟩)
  | '\\' :: 'u' :: a :: b :: c :: d :: more => do
    let unit ← Text.hexNumber? [a, b, c, d]
    let (units, rest) ← scanUnits more
    pure (unit :: units, ⟨rest.1, by have := rest.2; simp; omega⟩)
  | '\\' :: e :: more => do
    let unit ← shortEscape? e
    let (units, rest) ← scanUnits more
    pure (unit.toNat :: units, ⟨rest.1, by have := rest.2; simp; omega⟩)
  | c :: more =>
    if c.toNat < 0x20 then none
    else do
      let (units, rest) ← scanUnits more
      pure (c.toNat :: units, ⟨rest.1, by have := rest.2; simp; omega⟩)

def isHighSurrogate (unit : Nat) : Bool := 0xD800 ≤ unit && unit < 0xDC00

def isLowSurrogate (unit : Nat) : Bool := 0xDC00 ≤ unit && unit < 0xE000

/-- Joins surrogate pairs; a surrogate that stands alone is no text. -/
def joinUnits? : List Nat → Option (List Char)
  | [] => some []
  | high :: low :: rest =>
    if isHighSurrogate high then
      if isLowSurrogate low then
        (joinUnits? rest).map
          (Char.ofNat (0x10000 + (high - 0xD800) * 0x400 + (low - 0xDC00)) :: ·)
      else none
    else if isLowSurrogate high then none
    else (joinUnits? (low :: rest)).map (Char.ofNat high :: ·)
  | [unit] => if isHighSurrogate unit || isLowSurrogate unit then none else some [Char.ofNat unit]

/-- A literal without superfluous zeros, and with digits wherever they are announced. -/
def wellFormed (l : DecimalLiteral) : Bool :=
  !l.whole.isEmpty && (l.whole.length == 1 || l.whole.head? != some '0') &&
    l.fraction.all (!·.isEmpty)

def keyword? : List Char → Option (Json × List Char)
  | 'n' :: 'u' :: 'l' :: 'l' :: rest => some (null, rest)
  | 't' :: 'r' :: 'u' :: 'e' :: rest => some (boolean true, rest)
  | 'f' :: 'a' :: 'l' :: 's' :: 'e' :: rest => some (boolean false, rest)
  | _ => none

def scanScalar? (cs : List Char) : Option (Token × List Char) :=
  match keyword? cs with
  | some (value, rest) => some (.scalar value, rest)
  | none =>
    let (literal, rest) := DecimalLiteral.scan cs
    if wellFormed literal then literal.numeral?.map fun n => (.scalar (number n), rest) else none

/-- The first token, and the rest of the text. -/
def scanToken? (c : Char) (rest : List Char) : Option (Token × List Char) :=
  match c with
  | '[' => some (.openArray, rest)
  | ']' => some (.closeArray, rest)
  | '\x7b' => some (.openObject, rest)
  | '\x7d' => some (.closeObject, rest)
  | ',' => some (.comma, rest)
  | ':' => some (.colon, rest)
  | '"' => do
    let (units, after) ← scanUnits rest
    let chars ← joinUnits? units
    pure (.string (String.ofList chars), after.1)
  | _ => scanScalar? (c :: rest)

/-- All tokens of a text. A token that takes nothing off the text ends the scan. -/
def tokens? (cs : List Char) : Option (List Token) :=
  match cs with
  | [] => some []
  | c :: rest =>
    if isBlank c then tokens? rest
    else
      match scanToken? c rest with
      | none => none
      | some (token, after) =>
        if after.length < (c :: rest).length then (tokens? after).map (token :: ·) else none
termination_by cs.length
decreasing_by
  · exact Nat.lt_succ_self rest.length
  · assumption

end Conform.Json
