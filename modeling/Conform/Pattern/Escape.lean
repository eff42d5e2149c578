import Conform.Pattern.Scanner
import Conform.Text.Hex

/-! Escapes. -/

namespace Conform.Pattern.Scanner

def isHexDigit (c : Char) : Bool := (Text.hexValue? c).isSome

def charOfHex? (digits : List Char) : Option Char := do
  let code ← Text.hexNumber? digits
  if code.isValidChar then some (Char.ofNat code) else none

def scalar (digits : List Char) (span : Span) : Scanner Char :=
  match charOfHex? digits with
  | some c => return c
  | none => fail .notACharacter span

/-- Reads a fixed number of hexadecimal digits. -/
def fixedHex (count : Nat) : Scanner Char := do
  let start ← index
  let digits ← go count
  scalar digits (← spanFrom start)
where
  go : Nat → Scanner (List Char)
    | 0 => return []
    | count + 1 => do
      match ← peek? with
      | none => fail .unfinishedEscape (← emptySpan)
      | some c =>
        if !isHexDigit c then fail .invalidHexDigit (← charSpan)
        else
          let _ ← advanceOverBlanks
          return c :: (← go count)

/-- Reads hexadecimal digits between braces. -/
def bracedHex : Scanner Char := do
  let brace ← index
  let _ ← advanceOverBlanks
  let digits ← takeWhile isHexDigit
  match ← peek? with
  | none => fail .unfinishedEscape (← spanFrom brace)
  | some c =>
    if c != '\x7d' then fail .invalidHexDigit (← charSpan)
    else
      let stop ← index
      let _ ← advanceOverBlanks
      if digits.isEmpty then fail .emptyHex (← spanFrom brace)
      else scalar digits ⟨brace + 1, stop⟩

/-- A character by its number, written with a fixed count of digits or between braces. -/
def hex (count : Nat) : Scanner Sign := do
  if !(← advanceOverBlanks) then fail .unfinishedEscape (← emptySpan)
  else if (← peek?) = some '\x7b' then return .literal (← bracedHex)
  else if count = 2 then return .byte (← fixedHex count)
  else return .literal (← fixedHex count)

def bracedName : Scanner (List Char) := do
  let _ ← advanceOverBlanks
  let name ← takeWhile (· != '\x7d')
  if (← peek?).isNone then fail .unfinishedEscape (← emptySpan)
  else
    skip 1
    return name

def propertyName : Scanner (List Char) := do
  if !(← advanceOverBlanks) then fail .unfinishedEscape (← emptySpan)
  else
    match ← peek? with
    | some '\x7b' => bracedName
    | some '\\' => fail .invalidPropertyName (← charSpan)
    | some c =>
      let _ ← advanceOverBlanks
      return [c]
    | none => fail .unfinishedEscape (← emptySpan)

def wordPlaces : List (String × (Bool → Place)) :=
  [("start", .wordStart), ("end", .wordEnd), ("start-half", .beforeWord), ("end-half", .afterWord)]

/-- Reads what may follow a word boundary in braces. A brace that cannot name a place is left for a
counted repetition. -/
def wordBoundary (start : Nat) : Scanner Place := do
  let ascii := (← settings).ascii
  let before ← get
  if before.rest.head? != some '\x7b' then return .wordBoundary ascii
  else if !(← advanceOverBlanks) then fail .unfinishedWordPlace (← spanFrom start)
  else
    let contents ← index
    let name ← takeWhile fun c => c.isAlpha || c == '-'
    if name.isEmpty then
      set before
      return .wordBoundary ascii
    else if (← peek?) != some '\x7d' then fail .unclosedWordPlace (← spanFrom before.index)
    else
      let stop ← index
      skip 1
      match wordPlaces.lookup (String.ofList name) with
      | some place => return place ascii
      | none => fail .unknownWordPlace ⟨contents, stop⟩

def controlEscapes : List (Char × Char) :=
  [('a', '\x07'), ('f', '\x0c'), ('t', '\t'), ('n', '\n'), ('r', '\r'), ('v', '\x0b')]

/-- Plain characters that stand for themselves after a backslash. -/
def standsForItself (c : Char) : Bool :=
  c.toNat < 0x80 && !c.isAlphanum && c != '<' && c != '>'

def simpleEscape (c : Char) (start : Nat) : Scanner Sign := do
  let ascii := (← settings).ascii
  if standsForItself c then return .literal c
  else
    match controlEscapes.lookup c, c with
    | some control, _ => return .literal control
    | none, 'A' => return .place .textStart
    | none, 'z' => return .place .textEnd
    | none, 'b' => return .place (← wordBoundary start)
    | none, 'B' => return .place (.insideWord ascii)
    | none, '<' => return .place (.wordStart ascii)
    | none, '>' => return .place (.wordEnd ascii)
    | none, _ => fail .unknownEscape (← spanFrom start)

/-- Reads an escape, from its backslash on. -/
def escape : Scanner Sign := do
  let start ← index
  if !(← advance) then fail .unfinishedEscape (← spanFrom start)
  else
    match ← peek? with
    | none => fail .unfinishedEscape (← spanFrom start)
    | some c =>
      if c.isDigit then fail .backreference ⟨start, (← index) + 1⟩
      else if c = 'x' then hex 2
      else if c = 'u' then hex 4
      else if c = 'U' then hex 8
      else if c = 'p' ∨ c = 'P' then return .property (← propertyName) (c == 'P')
      else
        skip 1
        if ['d', 's', 'w', 'D', 'S', 'W'].contains c then return .shorthand c
        else simpleEscape c start

end Conform.Pattern.Scanner
