import Conform.CharSet.Utf8
import Conform.Pattern.Expression

/-! How much memory the automata of a pattern take up. There are two of them, over bytes: one reads
a text forward and keeps track of captures, the other one reads it backward. -/

namespace Conform.Pattern

/-- What a state takes up, apart from its links to other states. -/
def stateBytes : Nat := 32

/-- What a link without a byte takes up. -/
def linkBytes : Nat := 4

/-- What a link by a range of bytes takes up in a state that has several. -/
def rangeLinkBytes : Nat := 8

/-- The most that either automaton may take up. -/
def footprintLimit : Nat := 10485760

namespace Footprint

open CharSet (ByteRange)

def total (sizes : List Nat) : Nat := sizes.foldl (· + ·) 0

/-- What is left of neighbouring lists that begin alike, with what they begin with. -/
def byHead {α : Type} [DecidableEq α] : List (List α) → List (α × List (List α))
  | [] => []
  | [] :: rest => byHead rest
  | (a :: as) :: rest =>
    match byHead rest with
    | (b, tails) :: groups =>
      if a = b then (a, as :: tails) :: groups else (a, [as]) :: (b, tails) :: groups
    | [] => [(a, [as])]

/-- The states of the tree that holds some sequences, each given by the ways on from it to an end of
the tree. No sequence is longer than the fuel. -/
def treeStates : Nat → List (List ByteRange) → List (List (List ByteRange))
  | 0, _ => []
  | fuel + 1, sequences =>
    match byHead sequences with
    | [] => []
    | groups => sequences :: groups.flatMap fun (_, tails) => treeStates fuel tails

/-- States with the same ways on are one. -/
def forwardSet (sequences : List (List ByteRange)) : Nat :=
  let states := (treeStates 4 sequences).eraseDups
  stateBytes + total (states.map fun state => stateBytes + rangeLinkBytes * (byHead state).length)

/-- How many items a list has after what it begins with like another one. -/
def newItems {α : Type} [DecidableEq α] : List α → List α → Nat
  | a :: as, b :: bs => if a = b then newItems as bs else (b :: bs).length
  | _, next => next.length

/-- Only what sequences begin with alike is one: the backward automaton ends with it. -/
def backwardSet (sequences : List (List ByteRange)) : Nat :=
  let states := total ((([] :: sequences).zip sequences).map fun (last, next) => newItems last next)
  2 * stateBytes + stateBytes * states + linkBytes * sequences.length

def ofSet (backward : Bool) (set : CharSet) : Nat :=
  if set.isAscii then 2 * stateBytes + rangeLinkBytes * set.ranges.length
  else if backward then backwardSet set.utf8Sequences
  else forwardSet set.utf8Sequences

/-- What is left of the words of a list, grouped by their first bytes. -/
def byFirst (words : List (List UInt8)) : List (List (List UInt8)) :=
  (words.filterMap List.head?).eraseDups.map fun first =>
    words.filterMap fun
      | byte :: rest => if byte = first then some rest else none
      | [] => none

/-- What the tree of some words takes up below its end. A word that ends inside the tree parts the
words after it from those before it. No word is longer than the fuel. -/
def wordTree : Nat → List (List UInt8) → Nat
  | 0, _ => 0
  | fuel + 1, words =>
    let words := if words.head? = some [] then [] :: words.dropWhile List.isEmpty else words
    let stretches := (words.splitOn []).map byFirst
    let filled := stretches.filter (!·.isEmpty)
    let links := filled.length + stretches.length - 1
    let own := stateBytes + linkBytes * links + total (filled.map fun groups =>
      stateBytes + if groups.length = 1 then 0 else rangeLinkBytes * groups.length)
    own + total (filled.flatten.map fun tails =>
      if tails.all List.isEmpty then 0 else wordTree fuel tails)

/-- The bytes of a branch that is a text, in the order in which they are read. -/
def word? (backward : Bool) : Expression → Option (List UInt8)
  | .literal text =>
    let bytes := text.flatMap String.utf8EncodeChar
    some (if backward then bytes.reverse else bytes)
  | _ => none

/-- A choice between texts only is a tree of words. -/
def ofWords? (backward : Bool) (e : Expression) : Option Nat := do
  let words ← e.branches.mapM (word? backward)
  return stateBytes + wordTree (total (words.map List.length) + 1) words

end Footprint

/-- What the automaton of an expression takes up, and what it takes to lead on from its end. -/
structure Footprint where
  bytes : Nat
  exit : Nat

namespace Footprint

/-- So many times the same, one after the other. -/
def times (body : Footprint) : Nat → Nat
  | 0 => stateBytes
  | count + 1 => (count + 1) * body.bytes + count * body.exit

/-- At most one time. -/
def optional (body : Footprint) : Footprint :=
  ⟨body.bytes + body.exit + 2 * stateBytes + 2 * linkBytes, 0⟩

/-- At least `min` times. If nothing need be matched but the body may match an empty text, then it
is made optional only around the loop. -/
def loop (body : Footprint) (mayBeEmpty : Bool) : Nat → Footprint
  | 0 =>
    if mayBeEmpty then ⟨body.bytes + body.exit + 3 * stateBytes + 4 * linkBytes, 0⟩
    else ⟨body.bytes + body.exit + stateBytes + linkBytes, linkBytes⟩
  | min + 1 => ⟨body.times (min + 1) + body.exit + stateBytes + linkBytes, linkBytes⟩

/-- From `min` to `max` times, each time past the least count being optional. -/
def bounded (body : Footprint) (min max : Nat) : Footprint :=
  if min = max then ⟨body.times min, body.exit⟩
  else
    let first := body.times min + if min = 0 then 0 else body.exit
    let more := (max - min) * (body.bytes + body.exit + stateBytes + 2 * linkBytes)
    ⟨first + stateBytes + more, 0⟩

def repeated (body : Footprint) (mayBeEmpty : Bool) (min : Nat) : Option Nat → Footprint
  | none => body.loop mayBeEmpty min
  | some 1 => if min = 0 then body.optional else body.bounded min 1
  | some max => body.bounded min max

/-- The branches of a choice share a state before and a state after them. In `among`, which is the
last branch of a choice, a choice goes on with the branches of the one around it. -/
def ofExpression (backward among : Bool) : Expression → Footprint
  | .empty | .at _ => ⟨stateBytes, 0⟩
  | .literal text => ⟨stateBytes * Expression.byteLength text, 0⟩
  | .set set => ⟨ofSet backward set, 0⟩
  | .capture _ body =>
    let body := ofExpression backward false body
    if backward then body else ⟨2 * stateBytes + body.bytes + body.exit, 0⟩
  | .sequence first second =>
    let first := ofExpression backward false first
    let second := ofExpression backward false second
    if backward then ⟨first.bytes + second.bytes + second.exit, first.exit⟩
    else ⟨first.bytes + first.exit + second.bytes, second.exit⟩
  | .choice left right =>
    let left' := ofExpression backward false left
    let right' := ofExpression backward true right
    let branches := left'.bytes + left'.exit + linkBytes + right'.bytes + right'.exit
    if among then ⟨branches, 0⟩
    else
      let words := ofWords? backward (.choice left right)
      ⟨words.getD (2 * stateBytes + branches + linkBytes), 0⟩
  | .repetition body min max =>
    (ofExpression backward false body).repeated (body.minLength?.all (· = 0)) min max

end Footprint

namespace Expression

/-- Whether a match can only begin at the start of the text. -/
def startsText : Expression → Bool
  | .at place => place = .textStart
  | capture _ body => body.startsText
  | sequence first second => first.startsText || (first.maxLength? = some 0 && second.startsText)
  | choice left right => left.startsText && right.startsText
  | repetition body min _ => 0 < min && body.startsText
  | _ => false

/-- Whether a match can only end at the end of the text. -/
def endsText : Expression → Bool
  | .at place => place = .textEnd
  | capture _ body => body.endsText
  | sequence first second => second.endsText || (first.endsText && second.maxLength? = some 0)
  | choice left right => left.endsText && right.endsText
  | repetition body min _ => 0 < min && body.endsText
  | _ => false

/-- What either automaton takes up: the one that moves along the text to where a match begins, the
expression, the capture of the whole match if the text is read forward, and the last state. -/
def footprint (backward : Bool) (e : Expression) : Nat :=
  let anchored := if backward then e.endsText else e.startsText
  let search := if anchored then stateBytes else 3 * stateBytes + rangeLinkBytes + 2 * linkBytes
  let whole := if backward then 0 else 2 * stateBytes
  let body := Footprint.ofExpression backward false e
  search + whole + body.bytes + body.exit + stateBytes

def isOversized (e : Expression) : Bool :=
  footprintLimit < e.footprint true || footprintLimit < e.footprint false

end Expression

end Conform.Pattern
