import Conform.Pattern.Scanner

/-! Openings of groups: names of captures, and settings for a group or for what follows. -/

namespace Conform.Pattern.Scanner

/-- What an opening parenthesis begins: a group, with its number if it captures, or a change of
settings. -/
inductive Opening where
  | group (index : Option Nat) (settings : Settings)
  | settings (settings : Settings)

def nextGroup : Scanner Nat :=
  modifyGet fun cursor =>
    (cursor.groupCount + 1, { cursor with groupCount := cursor.groupCount + 1 })

def isNameChar (first : Bool) (c : Char) : Bool :=
  c == '_' || Unicode.isAlphabetic c ||
    (!first && (c == '.' || c == '[' || c == ']' || Unicode.isNumeric c))

def groupNameRest (start : Nat) : Nat → Scanner (List Char)
  | 0 => return []
  | fuel + 1 => do
    match ← peek? with
    | none => fail .unclosedGroupName (← emptySpan)
    | some '>' => return []
    | some c =>
      if !isNameChar ((← index) == start) c then fail .invalidGroupName (← charSpan)
      else
        skip 1
        return c :: (← groupNameRest start fuel)

/-- Reads the name of a group up to its closing bracket. No two groups share a name. -/
def groupName : Scanner Unit := do
  let start ← index
  let name ← groupNameRest start ((← get).rest.length + 1)
  let span ← spanFrom start
  skip 1
  if name.isEmpty then fail .emptyGroupName ⟨start, start⟩
  else
    match (← get).groupNames.lookup name with
    | some earlier => failAgainst .duplicateGroupName span earlier
    | none => modify fun cursor => { cursor with groupNames := (name, span) :: cursor.groupNames }

/-- The settings with that of one letter switched on or off. The letter for preferring short
matches changes none that a search can tell. -/
def Settings.switch? (settings : Settings) (letter : Char) (on : Bool) : Option Settings :=
  match letter with
  | 'i' => some { settings with anyCase := on }
  | 'm' => some { settings with multiLine := on }
  | 's' => some { settings with dotAll := on }
  | 'U' => some settings
  | 'u' => some { settings with ascii := !on }
  | 'R' => some { settings with crlf := on }
  | 'x' => some { settings with verbose := on }
  | _ => none

/-- Reads letters up to a colon or a closing parenthesis. Each may come once; those after a hyphen
are switched off. -/
def flags (seen : List (Char × Nat)) : Nat → Settings → Scanner Settings
  | 0, settings => return settings
  | fuel + 1, settings => do
    let place ← index
    match ← peek? with
    | none => fail .unfinishedFlags (← emptySpan)
    | some c =>
      if c = ':' ∨ c = ')' then
        match seen.head? with
        | some ('-', last) => fail .danglingNegation ⟨last, last + 1⟩
        | _ => return settings
      else
        let negated := (seen.lookup '-').isSome
        let next ←
          if c = '-' then pure settings
          else
            match Settings.switch? settings c (!negated) with
            | some next => pure next
            | none => fail .unknownFlag (← charSpan)
        match seen.lookup c with
        | some earlier =>
          let fault := if c = '-' then Fault.repeatedNegation else .repeatedFlag
          failAgainst fault (← charSpan) ⟨earlier, earlier + 1⟩
        | none =>
          skip 1
          flags ((c, place) :: seen) fuel next

/-- Reads the opening of a group, from its parenthesis on. -/
def opening : Scanner Opening := do
  let start ← index
  skip 1
  skipBlanks
  let current ← settings
  let question ← emptySpan
  if ← takeAny ["?=", "?!", "?<=", "?<!"] then
    fail .lookAround (← spanFrom start)
  else if ← takeAny ["?P<", "?<"] then
    let index ← nextGroup
    groupName
    return .group (some index) current
  else if !(← take "?") then return .group (some (← nextGroup)) current
  else if (← peek?).isNone then fail .unclosedGroup ⟨start, start + 1⟩
  else
    let first ← index
    let next ← flags [] ((← get).rest.length + 1) current
    let stop ← index
    if (← peek?) = some ':' then
      skip 1
      return .group none next
    else if first = stop then fail .missingOperand question
    else
      skip 1
      return .settings next

end Conform.Pattern.Scanner
