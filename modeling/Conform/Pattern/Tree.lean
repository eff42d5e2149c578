import Conform.Pattern.Fault
import Conform.Pattern.Place

/-! Patterns as they are written: their parts, each with its place in the text and with the settings
in force there. -/

namespace Conform.Pattern

/-- The settings that a pattern can switch on and off. -/
structure Settings where
  anyCase : Bool
  multiLine : Bool
  dotAll : Bool
  crlf : Bool
  ascii : Bool
  verbose : Bool

def Settings.default : Settings := ⟨false, false, false, false, false, false⟩

/-- A part that stands for one character or one place. Two hexadecimal digits stand for a byte where
patterns match plain characters only, and for a character elsewhere. -/
inductive Sign where
  | literal (c : Char)
  | byte (c : Char)
  | dot
  | place (place : Place)
  | shorthand (letter : Char)
  | property (text : List Char) (negated : Bool)

/-- The character that a part stands for by itself. -/
def Sign.char? : Sign → Option Char
  | literal c | byte c => some c
  | _ => none

inductive SetOperator where
  | intersection | difference | symmetricDifference
deriving DecidableEq

/-- What stands inside brackets. -/
inductive BracketTree where
  | nothing (span : Span)
  | sign (sign : Sign) (span : Span)
  | named (set : CharSet) (negated : Bool) (span : Span)
  | range (low : Sign) (lowSpan : Span) (high : Sign) (highSpan : Span)
  | bracket (negated : Bool) (content : BracketTree) (span : Span)
  | union (items : List BracketTree) (span : Span)
  | operation (operator : SetOperator) (left right : BracketTree) (span : Span)

def BracketTree.span : BracketTree → Span
  | nothing span | sign _ span | named _ _ span | bracket _ _ span => span
  | union _ span | operation _ _ _ span => span
  | range _ low _ high => ⟨low.start, high.stop⟩

inductive Tree where
  | empty (span : Span)
  | settings (span : Span)
  | sign (sign : Sign) (settings : Settings) (span : Span)
  | bracket (set : BracketTree) (settings : Settings)
  | group (index : Option Nat) (body : Tree) (span : Span)
  | repetition (body : Tree) (min : Nat) (max : Option Nat) (span : Span)
  | sequence (items : List Tree) (span : Span)
  | choice (branches : List Tree) (span : Span)

def Tree.span : Tree → Span
  | empty span | settings span | sign _ _ span | group _ _ span => span
  | repetition _ _ _ span | sequence _ span | choice _ span => span
  | bracket set _ => set.span

end Conform.Pattern
