/-! Sets of characters, held as the code points at which membership changes. -/

namespace Conform

/-- The changes are in increasing order. Members begin at the first of them and end before the
second, begin again at the third, and so on; what is begun and not ended reaches to the last
character. -/
structure CharSet where
  changes : Array Nat
deriving DecidableEq

namespace CharSet

/-- One past the last code point. -/
def ceiling : Nat := 0x110000

def nothing : CharSet := ⟨#[]⟩

def everything : CharSet := ⟨#[0]⟩

/-- The code points from `first` up to, not including, `stop`. -/
def stretch (first stop : Nat) : CharSet := if stop < ceiling then ⟨#[first, stop]⟩ else ⟨#[first]⟩

def range (first last : Char) : CharSet := stretch first.toNat (last.toNat + 1)

def single (c : Char) : CharSet := range c c

/-- How many changes lie at or before a code point, if it is at least `low` and at most `high`. -/
def changesUpTo (set : CharSet) (code low high : Nat) : Nat :=
  if low < high then
    let middle := (low + high) / 2
    if set.changes.getD middle ceiling ≤ code then set.changesUpTo code (middle + 1) high
    else set.changesUpTo code low middle
  else low
termination_by high - low
decreasing_by all_goals omega

def containsCode (set : CharSet) (code : Nat) : Bool :=
  set.changesUpTo code 0 set.changes.size % 2 == 1

def contains (set : CharSet) (c : Char) : Bool := set.containsCode c.toNat

/-- The members as pairs of a first and a last code point. -/
def ranges (set : CharSet) : List (Nat × Nat) :=
  pair set.changes.toList
where
  pair : List Nat → List (Nat × Nat)
    | [] => []
    | [first] => [(first, ceiling - 1)]
    | first :: stop :: rest => (first, stop - 1) :: pair rest

/-- The first member. -/
def first? (set : CharSet) : Option Nat := set.changes[0]?

/-- The last member. -/
def last? (set : CharSet) : Option Nat :=
  if set.changes.size % 2 = 1 then some (ceiling - 1) else set.changes.back?.map (· - 1)

def isAscii (set : CharSet) : Bool := set.last?.all (· < 0x80)

/-- The one member of a set that has no other. -/
def single? (set : CharSet) : Option Char :=
  match set.ranges with
  | [(first, last)] => if first = last then some (Char.ofNat first) else none
  | _ => none

end CharSet

end Conform
