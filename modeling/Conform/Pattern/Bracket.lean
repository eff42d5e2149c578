import Conform.Pattern.Escape

/-! Sets of characters written in brackets, with ranges, nested sets and operators on sets. -/

namespace Conform.Pattern.Scanner

/-- A bracketed set being read: the items since the last operator, latest first, the place where
they begin, and what that operator applies to. -/
structure OpenBracket where
  header : Span
  negated : Bool
  place : Nat
  items : List BracketTree
  left : Option (SetOperator × BracketTree)

namespace OpenBracket

def push (bracket : OpenBracket) (item : BracketTree) : OpenBracket :=
  { bracket with items := item :: bracket.items }

/-- The items since the last operator as one. -/
def gathered (bracket : OpenBracket) : BracketTree :=
  match bracket.items, bracket.items.reverse with
  | last :: _ :: _, first :: rest => .union (first :: rest) ⟨first.span.start, last.span.stop⟩
  | [item], _ => item
  | _, _ => .nothing ⟨bracket.place, bracket.place⟩

/-- All that was read, with the pending operator applied to it. -/
def content (bracket : OpenBracket) : BracketTree :=
  let right := bracket.gathered
  match bracket.left with
  | none => right
  | some (operator, left) => .operation operator left right ⟨left.span.start, right.span.stop⟩

end OpenBracket

/-- Takes the hyphens that stand first; there is always more to read after them. -/
def leadingHyphens (start : Nat) : Nat → List BracketTree → Scanner (List BracketTree)
  | 0, items => return items
  | fuel + 1, items => do
    if (← peek?) = some '-' then
      let hyphen := BracketTree.sign (.literal '-') (← charSpan)
      if !(← advanceOverBlanks) then fail .unclosedClass ⟨start, start⟩
      else leadingHyphens start fuel (hyphen :: items)
    else return items

/-- Opens a bracket: its negation, leading hyphens, and a closing bracket that stands first. -/
def openBracket : Scanner OpenBracket := do
  let start ← index
  if !(← advanceOverBlanks) then fail .unclosedClass (← spanFrom start)
  let negated := (← peek?) = some '^'
  if negated then
    if !(← advanceOverBlanks) then fail .unclosedClass (← spanFrom start)
  let place ← index
  let items ← leadingHyphens start (← get).rest.length []
  if items.isEmpty && (← peek?) = some ']' then
    let bracket := BracketTree.sign (.literal ']') (← charSpan)
    if !(← advanceOverBlanks) then fail .unclosedClass (← spanFrom start)
    return ⟨(← spanFrom start), negated, place, [bracket], none⟩
  else return ⟨(← spanFrom start), negated, place, items, none⟩

/-- What follows `[:` up to the closing `:]`, if there is one. -/
def namedSetText? : List Char → Option (List Char)
  | '[' :: ':' :: body =>
    let text := body.takeWhile (· != ':')
    if [':', ']'].isPrefixOf (body.drop text.length) then some text else none
  | _ => none

/-- Reads `[:name:]` or `[:^name:]`, or nothing at all. -/
def namedSet? : Scanner (Option BracketTree) := do
  let before ← get
  match namedSetText? before.rest with
  | none => return none
  | some text =>
    let negated := text.head? = some '^'
    let name := if negated then text.drop 1 else text
    match CharSet.asciiNamed.lookup (String.ofList name) with
    | none => return none
    | some set =>
      skip (text.length + 4)
      return some (.named set negated (← spanFrom before.index))

/-- One part inside brackets, with its span. -/
def bracketSign : Scanner (Sign × Span) := do
  let start ← index
  match ← peek? with
  | some '\\' => do
    let sign ← escape
    return (sign, (← spanFrom start))
  | some c =>
    skip 1
    return (.literal c, (← spanFrom start))
  | none => fail .unclosedClass (← emptySpan)

/-- A part that can stand inside brackets by itself. -/
def bracketMember : Sign × Span → Scanner BracketTree
  | (.dot, span) | (.place _, span) => fail .escapeInClass span
  | (sign, span) => return .sign sign span

/-- The character at an end of a range. -/
def rangeEnd (sign : Sign) (span : Span) : Scanner Char :=
  match sign.char? with
  | some c => return c
  | none => fail .rangeBound span

/-- One character, set or range; `header` is where the innermost bracket begins. -/
def bracketItem (header : Span) : Scanner BracketTree := do
  let first ← bracketSign
  skipBlanks
  let next ← peek?
  if next.isNone then fail .unclosedClass header
  let second ← peekPastBlanks?
  if next != some '-' || second = some ']' || second = some '-' then bracketMember first
  else if !(← advanceOverBlanks) then fail .unclosedClass header
  else
    let last ← bracketSign
    let low ← rangeEnd first.1 first.2
    let high ← rangeEnd last.1 last.2
    if high < low then fail .reversedRange ⟨first.2.start, last.2.stop⟩
    return .range first.1 first.2 last.1 last.2

def setOperator? : List Char → Option SetOperator
  | '&' :: '&' :: _ => some .intersection
  | '-' :: '-' :: _ => some .difference
  | '~' :: '~' :: _ => some .symmetricDifference
  | _ => none

/-- Reads to the end of the outermost bracket. -/
def bracketRest : Nat → OpenBracket → List OpenBracket → Scanner BracketTree
  | 0, bracket, _ => fail .unclosedClass bracket.header
  | fuel + 1, bracket, outer => do
    skipBlanks
    match ← peek? with
    | none => fail .unclosedClass bracket.header
    | some '[' =>
      match ← namedSet? with
      | some set => bracketRest fuel (bracket.push set) outer
      | none => bracketRest fuel (← openBracket) (bracket :: outer)
    | some ']' =>
      skip 1
      let span ← spanFrom bracket.header.start
      let set := BracketTree.bracket bracket.negated bracket.content span
      match outer with
      | [] => return set
      | parent :: outer => bracketRest fuel (parent.push set) outer
    | some _ =>
      match setOperator? (← get).rest with
      | some operator =>
        skip 2
        let left := some (operator, bracket.content)
        bracketRest fuel { bracket with place := (← index), items := [], left } outer
      | none => bracketRest fuel (bracket.push (← bracketItem bracket.header)) outer

/-- Reads a bracketed set, from its opening bracket on. -/
def bracketed : Scanner BracketTree := do
  let fuel := (← get).rest.length
  bracketRest fuel (← openBracket) []

end Conform.Pattern.Scanner
