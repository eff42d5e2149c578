import Conform.Pattern.Expression

/-! Searching a text for an expression. A set of positions is a natural number whose bit `i` stands
for the place before character `i`; an expression carries the set where it may begin to the set
where it may end. -/

namespace Conform.Pattern

/-- The natural number with the given bits, the lowest first. -/
def ofBits (bits : List Bool) : Nat := bits.foldr (fun bit n => 2 * n + bit.toNat) 0

/-- An expression seen against one text: each set of characters and each test of place has become
the set of positions where it holds. -/
inductive Walk where
  | step (places : Nat)
  | stay (places : Nat)
  | sequence (first second : Walk)
  | choice (left right : Walk)
  | repetition (body : Walk) (min : Nat) (max : Option Nat)

def charsAt (accepts : Char → Bool) (text : List Char) : Nat := ofBits (text.map accepts)

def placesAt (place : Place) (before : Option Char) : List Char → List Bool
  | [] => [place.holds before none]
  | c :: rest => place.holds before (some c) :: placesAt place (some c) rest

/-- Takes the characters of a literal one by one. -/
def literalWalk (text : List Char) : List Char → Walk
  | [] => .stay (1 <<< (text.length + 1) - 1)
  | c :: rest => .sequence (.step (charsAt (· == c) text)) (literalWalk text rest)

namespace Expression

def against (text : List Char) : Expression → Walk
  | empty => .stay (1 <<< (text.length + 1) - 1)
  | literal part => literalWalk text part
  | set s => .step (charsAt s.contains text)
  | .at place => .stay (ofBits (placesAt place none text))
  | capture _ body => body.against text
  | sequence first second => .sequence (first.against text) (second.against text)
  | choice left right => .choice (left.against text) (right.against text)
  | repetition body min max => .repetition (body.against text) min max

end Expression

/-- Everything reached from the frontier by any number of moves, added to what was reached before.
The fuel bounds how often something new is found. -/
def spread (move : Nat → Nat) : Nat → Nat → Nat → Nat
  | 0, reached, _ => reached
  | fuel + 1, reached, frontier =>
    if frontier = 0 then reached
    else
      let next := move frontier
      let new := next ^^^ (next &&& reached)
      spread move fuel (reached ||| new) new

namespace Walk

/-- Where the walk may end if it begins in `start`, on a text with places `0` to `length`. A walk
never goes back, so a run of more than `length + 1` repetitions leads no further. -/
def reach (length : Nat) : Walk → Nat → Nat
  | step places, start => (start &&& places) <<< 1
  | stay places, start => start &&& places
  | sequence first second, start => second.reach length (first.reach length start)
  | choice left right, start => left.reach length start ||| right.reach length start
  | repetition body min max, start =>
    let limit := length + 1
    let required := Nat.repeat (body.reach length) (Nat.min min limit) start
    match max with
    | none => spread (body.reach length) (limit + 1) required required
    | some max => spread (body.reach length) (Nat.min (max - min) (limit + 1)) required required

end Walk

/-- Whether the expression matches some stretch of the text. -/
def Expression.occursIn (e : Expression) (s : String) : Bool :=
  let text := s.toList
  (e.against text).reach text.length (1 <<< (text.length + 1) - 1) != 0

end Conform.Pattern
