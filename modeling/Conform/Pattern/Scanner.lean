import Conform.Pattern.Tree

/-! Stepping through the text of a pattern: the place reached, the settings in force there, and the
groups met on the way. -/

namespace Conform.Pattern

structure Cursor where
  rest : List Char
  index : Nat
  settings : Settings
  groupCount : Nat
  groupNames : List (List Char × Span)

abbrev Scanner := StateT Cursor (Except Error)

namespace Scanner

variable {α : Type}

def fail (fault : Fault) (span : Span) : Scanner α := throw ⟨fault, span, none⟩

def failAgainst (fault : Fault) (span earlier : Span) : Scanner α :=
  throw ⟨fault, span, some earlier⟩

def peek? : Scanner (Option Char) := return (← get).rest.head?

def index : Scanner Nat := return (← get).index

def settings : Scanner Settings := return (← get).settings

def setSettings (settings : Settings) : Scanner Unit :=
  modify fun cursor => { cursor with settings }

/-- The span of no characters at the cursor. -/
def emptySpan : Scanner Span := return ⟨(← index), (← index)⟩

/-- The span of the character at the cursor. -/
def charSpan : Scanner Span := return ⟨(← index), (← index) + 1⟩

def spanFrom (start : Nat) : Scanner Span := return ⟨start, (← index)⟩

def skip (count : Nat) : Scanner Unit :=
  modify fun cursor => { cursor with rest := cursor.rest.drop count, index := cursor.index + count }

/-- Goes on by one character; whether one is left to read. -/
def advance : Scanner Bool := do
  skip 1
  return (← peek?).isSome

/-- The number of characters in front that are blank or part of a comment. -/
def blankLength (inComment : Bool) : List Char → Nat
  | [] => 0
  | c :: rest =>
    if inComment then blankLength (c != '\n') rest + 1
    else if Unicode.isWhiteSpace c then blankLength false rest + 1
    else if c = '#' then blankLength true rest + 1
    else 0

def skipBlanks : Scanner Unit := do
  if (← settings).verbose then skip (blankLength false (← get).rest)

def advanceOverBlanks : Scanner Bool := do
  skip 1
  skipBlanks
  return (← peek?).isSome

/-- The character after the one at the cursor, blanks aside. Of a comment only the opening sign is
passed over, and not what it holds. -/
def peekPastBlanks? : Scanner (Option Char) := do
  let after := (← get).rest.drop 1
  if !(← settings).verbose then return after.head?
  else
    match after.dropWhile Unicode.isWhiteSpace with
    | '#' :: comment => return (comment.dropWhile Unicode.isWhiteSpace).head?
    | rest => return rest.head?

/-- Goes past a text if it is next. -/
def take (text : String) : Scanner Bool := do
  let found := text.toList.isPrefixOf (← get).rest
  if found then skip text.length
  return found

/-- Goes past the first of some texts that is next. -/
def takeAny : List String → Scanner Bool
  | [] => return false
  | text :: rest => do if ← take text then return true else takeAny rest

/-- The characters from the cursor on that pass a test, without the blanks between them. -/
def takeWhile (accepts : Char → Bool) : Scanner (List Char) := do
  go (← get).rest.length
where
  go : Nat → Scanner (List Char)
    | 0 => return []
    | fuel + 1 => do
      match ← peek? with
      | none => return []
      | some c =>
        if accepts c then
          let _ ← advanceOverBlanks
          return c :: (← go fuel)
        else return []

end Scanner

end Conform.Pattern
