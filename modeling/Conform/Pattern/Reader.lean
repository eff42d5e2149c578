import Conform.Number.Reading
import Conform.Pattern.Bracket
import Conform.Pattern.Group

/-! Reading a pattern into its parts. Open groups wait on a stack. -/

namespace Conform.Pattern

namespace Scanner

/-- The part of a group that has been read: finished branches and the items of the current one,
both latest first, and where the first branch and the current one begin. -/
structure Branches where
  start : Nat
  done : List Tree
  place : Nat
  items : List Tree

namespace Branches

def begun (place : Nat) : Branches := ⟨place, [], place, []⟩

def push (b : Branches) (item : Tree) : Branches := { b with items := item :: b.items }

/-- The current branch, which ends before `stop`. -/
def current (b : Branches) (stop : Nat) : Tree :=
  match b.items.reverse with
  | [] => .empty ⟨b.place, stop⟩
  | [item] => item
  | items => .sequence items ⟨b.place, stop⟩

/-- All branches as one part. -/
def whole (b : Branches) (stop : Nat) : Tree :=
  if b.done.isEmpty then b.current stop
  else .choice (b.done.reverse ++ [b.current stop]) ⟨b.start, stop⟩

end Branches

/-- A group that waits for its end: where it began, its number if it captures, and what to go back
to after it. -/
structure OpenGroup where
  start : Nat
  index : Option Nat
  settings : Settings
  outer : Branches

def lineStart (settings : Settings) : Place :=
  if !settings.multiLine then .textStart else if settings.crlf then .crlfLineStart else .lineStart

def lineEnd (settings : Settings) : Place :=
  if !settings.multiLine then .textEnd else if settings.crlf then .crlfLineEnd else .lineEnd

/-- A character that opens nothing, or an escape. -/
def atom (c : Char) : Scanner Tree := do
  let start ← index
  let sign ←
    if c = '\\' then escape
    else
      skip 1
      match c with
      | '.' => pure .dot
      | '^' => pure (.place (lineStart (← settings)))
      | '$' => pure (.place (lineEnd (← settings)))
      | c => pure (.literal c)
  return .sign sign (← settings) (← spanFrom start)

/-- The item that an operator applies to, taken off its branch. A change of settings is none. -/
def operand (b : Branches) : Scanner (Tree × Branches) := do
  match b.items with
  | .settings _ :: _ | [] => fail .missingOperand (← emptySpan)
  | item :: items => return (item, { b with items })

/-- Goes past a mark for preferring short matches, which no search can tell. -/
def skipPreference : Scanner Unit := do
  if (← peek?) = some '?' then skip 1

def repeated (b : Branches) (min : Nat) (max : Option Nat) : Scanner Branches := do
  let (body, b) ← operand b
  skip 1
  skipPreference
  return b.push (.repetition body min max (← spanFrom body.span.start))

/-- A decimal that fits 32 bits, or why there is none. -/
def decimal : Scanner (Except Error Nat) := do
  let blanks := ((← get).rest.takeWhile Unicode.isWhiteSpace).length
  skip blanks
  let start ← index
  let digits ← takeWhile Char.isDigit
  let span ← spanFrom start
  let _ ← takeWhile Unicode.isWhiteSpace
  let value := DecimalLiteral.digitsValue digits
  if digits.isEmpty then return .error ⟨.missingCount, span, .none⟩
  else if value < UInt32.size then return .ok value
  else return .error ⟨.hugeDecimal, span, .none⟩

/-- The bounds between the braces of a counted repetition that begins at `start`. -/
def countBounds (start : Nat) : Scanner (Nat × Option Nat) := do
  if !(← advanceOverBlanks) then fail .unclosedCount (← spanFrom start)
  let min ← decimal
  if (← peek?).isNone then fail .unclosedCount (← spanFrom start)
  if (← peek?) != some ',' then
    let min ← MonadExcept.ofExcept min
    return (min, some min)
  else if !(← advanceOverBlanks) then fail .unclosedCount (← spanFrom start)
  else
    let min ← MonadExcept.ofExcept min
    if (← peek?) = some '\x7d' then return (min, .none)
    else return (min, some (← MonadExcept.ofExcept (← decimal)))

def counted (b : Branches) : Scanner Branches := do
  let start ← index
  let (body, b) ← operand b
  let (min, max) ← countBounds start
  if (← peek?) != some '\x7d' then fail .unclosedCount (← spanFrom start)
  let _ ← advanceOverBlanks
  skipPreference
  if max.any (· < min) then fail .reversedCount (← spanFrom start)
  return b.push (.repetition body min max (← spanFrom body.span.start))

/-- Reads to the end of the pattern. -/
def readRest : Nat → Branches → List OpenGroup → Scanner Tree
  | 0, b, _ => return b.whole (← index)
  | fuel + 1, b, groups => do
    skipBlanks
    let place ← index
    match ← peek? with
    | .none =>
      match groups with
      | [] => return b.whole place
      | group :: _ => fail .unclosedGroup ⟨group.start, group.start + 1⟩
    | some '(' =>
      let before ← settings
      match ← opening with
      | .settings next =>
        setSettings next
        readRest fuel (b.push (.settings (← spanFrom place))) groups
      | .group number next =>
        setSettings next
        readRest fuel (.begun (← index)) (⟨place, number, before, b⟩ :: groups)
    | some ')' =>
      match groups with
      | [] => fail .unopenedGroup (← charSpan)
      | group :: groups =>
        skip 1
        setSettings group.settings
        let body := b.whole place
        let span ← spanFrom group.start
        readRest fuel (group.outer.push (.group group.index body span)) groups
    | some '|' =>
      skip 1
      readRest fuel ⟨b.start, b.current place :: b.done, place + 1, []⟩ groups
    | some '[' => readRest fuel (b.push (.bracket (← bracketed) (← settings))) groups
    | some '?' => readRest fuel (← repeated b 0 (some 1)) groups
    | some '*' => readRest fuel (← repeated b 0 .none) groups
    | some '+' => readRest fuel (← repeated b 1 .none) groups
    | some '\x7b' => readRest fuel (← counted b) groups
    | some c => readRest fuel (b.push (← atom c)) groups

end Scanner

namespace Tree

/-- Reads a whole pattern, each step taking at least one character off it. -/
def read (source : String) : Except Error Tree := do
  let text := source.toList
  let scan := Scanner.readRest (text.length + 1) (.begun 0) []
  let (tree, _) ← scan.run ⟨text, 0, .default, 0, []⟩
  return tree

end Tree

end Conform.Pattern
