import Conform.CharSet.Algebra
import Conform.Pattern.Place

/-! What a pattern means once it is read: expressions over texts, sets of characters and tests of
place, put together in a plain form. -/

namespace Conform.Pattern

inductive Expression where
  | empty
  | literal (text : List Char)
  | set (set : CharSet)
  | at (place : Place)
  | capture (index : Nat) (body : Expression)
  | sequence (first second : Expression)
  | choice (left right : Expression)
  | repetition (body : Expression) (min : Nat) (max : Option Nat)
deriving DecidableEq

namespace Expression

/-- The bytes of a text in UTF-8. -/
def byteLength (text : List Char) : Nat := text.foldl (fun n c => n + c.utf8Size) 0

def codeLength (code : Nat) : Nat := (Char.ofNat code).utf8Size

/-- The fewest bytes that a match can have, if anything matches. -/
def minLength? : Expression → Option Nat
  | empty => some 0
  | literal text => some (byteLength text)
  | set s => s.first?.map codeLength
  | .at _ => some 0
  | capture _ body => body.minLength?
  | sequence first second => do return (← first.minLength?) + (← second.minLength?)
  | choice left right => do return Nat.min (← left.minLength?) (← right.minLength?)
  | repetition body min _ => body.minLength?.map (· * min)

/-- The most bytes that a match can have, if there is a bound and anything matches. -/
def maxLength? : Expression → Option Nat
  | empty => some 0
  | literal text => some (byteLength text)
  | set s => s.last?.map codeLength
  | .at _ => some 0
  | capture _ body => body.maxLength?
  | sequence first second => do return (← first.maxLength?) + (← second.maxLength?)
  | choice left right => do return Nat.max (← left.maxLength?) (← right.maxLength?)
  | repetition body _ max => do return (← body.maxLength?) * (← max)

/-- A set with one member is a text. -/
def ofSet (s : CharSet) : Expression :=
  match s.single? with
  | some c => literal [c]
  | none => set s

/-- A repetition of what matches only empty texts need not go past once. None at all is the empty
expression, and once is the body itself. -/
def repeated (body : Expression) (min : Nat) (max : Option Nat) : Expression :=
  let still := body.maxLength? = some 0
  let min := if still then Nat.min min 1 else min
  let max := if still then some (Nat.min (max.getD 1) 1) else max
  if min = 0 ∧ max = some 0 then empty
  else if min = 1 ∧ max = some 1 then body
  else repetition body min max

/-- The parts of a sequence; the empty expression has none. -/
def parts : Expression → List Expression
  | empty => []
  | sequence first second => first :: second.parts
  | e => [e]

/-- Joins neighbouring texts. -/
def joinLiterals : List Expression → List Expression
  | [] => []
  | literal text :: rest =>
    match joinLiterals rest with
    | literal next :: more => literal (text ++ next) :: more
    | more => literal text :: more
  | e :: rest => e :: joinLiterals rest

def chain : List Expression → Expression
  | [] => empty
  | [e] => e
  | e :: rest => sequence e (chain rest)

def sequenceOf (items : List Expression) : Expression := chain (joinLiterals (items.flatMap parts))

def branches : Expression → List Expression
  | choice left right => left :: right.branches
  | e => [e]

def alternatives : List Expression → Expression
  | [] => set .nothing
  | [e] => e
  | e :: rest => choice e (alternatives rest)

/-- The set that a branch of one character stands for. -/
def charSet? : Expression → Option CharSet
  | set s => some s
  | literal [c] => some (.single c)
  | _ => none

/-- What two lists begin with alike. -/
def commonPrefix : List Expression → List Expression → List Expression
  | a :: as, b :: bs => if a = b then a :: commonPrefix as bs else []
  | _, _ => []

/-- The parts that all branches begin with alike, as long as each branch is a sequence. -/
def sharedParts : List Expression → List Expression
  | [] => []
  | e :: rest =>
    if (e :: rest).all fun b => 1 < b.parts.length then
      rest.foldl (fun shared b => commonPrefix shared b.parts) e.parts
    else []

/-- Branches of one character become one set, and parts that all branches begin with alike are taken
out in front. The fuel bounds how often that happens inside one another. -/
def choiceWithin : Nat → List Expression → Expression
  | 0, items => alternatives items
  | fuel + 1, items =>
    match items.flatMap branches with
    | [e] => e
    | items =>
      match items.mapM charSet? with
      | some sets => ofSet (.unionOf sets)
      | none =>
        match sharedParts items with
        | [] => alternatives items
        | shared =>
          let rests := items.map fun b => sequenceOf (b.parts.drop shared.length)
          sequenceOf (shared ++ [choiceWithin fuel rests])

/-- The number of parts that an expression is put together from. -/
def partCount : Expression → Nat
  | capture _ body => body.partCount + 1
  | sequence first second => first.partCount + second.partCount + 1
  | choice left right => left.partCount + right.partCount + 1
  | repetition body _ _ => body.partCount + 1
  | _ => 1

def choiceOf (items : List Expression) : Expression :=
  choiceWithin (items.foldl (fun n e => n + e.partCount) 1) items

end Expression

end Conform.Pattern
