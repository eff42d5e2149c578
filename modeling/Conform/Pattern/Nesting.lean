import Conform.Pattern.Tree

/-! How deeply the parts of a pattern may lie inside one another. -/

namespace Conform.Pattern

/-- The number of groups, brackets, repetitions and the like that may lie inside one another. -/
def nestingLimit : Nat := 250

/-- The part at `span` if there is no more room for it, or else what is too deep inside it. -/
def within (span : Span) (room : Nat) (inside : Nat → Option Span) : Option Span :=
  match room with
  | 0 => some span
  | room + 1 => inside room

namespace BracketTree

mutual

/-- The first part, in the order of the text, for which there is no room. -/
def tooDeep? : BracketTree → Nat → Option Span
  | bracket _ content span, room => within span room fun room => content.tooDeep? room
  | union items span, room => within span room fun room => firstTooDeep? items room
  | operation _ left right span, room =>
    within span room fun room => left.tooDeep? room <|> right.tooDeep? room
  | _, _ => none

def firstTooDeep? : List BracketTree → Nat → Option Span
  | [], _ => none
  | item :: rest, room =>
    match item.tooDeep? room with
    | some span => some span
    | none => firstTooDeep? rest room

end

end BracketTree

namespace Tree

mutual

/-- The first part, in the order of the text, for which there is no room. -/
def tooDeep? : Tree → Nat → Option Span
  | bracket set _, room => set.tooDeep? room
  | group _ body span, room => within span room fun room => body.tooDeep? room
  | repetition body _ _ span, room => within span room fun room => body.tooDeep? room
  | sequence items span, room => within span room fun room => firstTooDeep? items room
  | choice branches span, room => within span room fun room => firstTooDeep? branches room
  | _, _ => none

def firstTooDeep? : List Tree → Nat → Option Span
  | [], _ => none
  | item :: rest, room =>
    match item.tooDeep? room with
    | some span => some span
    | none => firstTooDeep? rest room

end

end Tree

end Conform.Pattern
