import Conform.CharSet.Basic

/-! Unions, intersections, differences and complements of sets of characters. -/

namespace Conform.CharSet

/-- Goes along two lists of changes and keeps those at which the combination of both sides changes;
`left` and `right` say whether what comes next is inside either side. -/
def mergeChanges (holds : Bool → Bool → Bool) (left right : Bool) : List Nat → List Nat → List Nat
  | [], [] => []
  | x :: xs, [] => keep (!left) right x (mergeChanges holds (!left) right xs [])
  | [], y :: ys => keep left (!right) y (mergeChanges holds left (!right) [] ys)
  | x :: xs, y :: ys =>
    if x < y then keep (!left) right x (mergeChanges holds (!left) right xs (y :: ys))
    else if y < x then keep left (!right) y (mergeChanges holds left (!right) (x :: xs) ys)
    else keep (!left) (!right) x (mergeChanges holds (!left) (!right) xs ys)
termination_by xs ys => xs.length + ys.length
decreasing_by all_goals (simp only [List.length_cons]; omega)
where
  keep (left' right' : Bool) (place : Nat) (rest : List Nat) : List Nat :=
    if holds left right == holds left' right' then rest else place :: rest

/-- The characters whose memberships in two sets pass a test that two absences fail. -/
def combine (holds : Bool → Bool → Bool) (a b : CharSet) : CharSet :=
  ⟨(mergeChanges holds false false a.changes.toList b.changes.toList).toArray⟩

def union (a b : CharSet) : CharSet := combine or a b

def inter (a b : CharSet) : CharSet := combine and a b

def diff (a b : CharSet) : CharSet := combine (fun x y => x && !y) a b

def symmDiff (a b : CharSet) : CharSet := combine bne a b

def complement (set : CharSet) : CharSet := symmDiff everything set

def unionOf (sets : List CharSet) : CharSet := sets.foldr union nothing

/-- The changes of the set with the given members, which come in order. -/
def changesOf : List Nat → List Nat
  | [] => []
  | code :: rest =>
    match changesOf rest with
    | [] => [code, code + 1]
    | next :: more =>
      if next = code then next :: more
      else if next = code + 1 then code :: more
      else code :: (code + 1) :: next :: more

/-- The set with the given members. -/
def ofCodes (codes : List Nat) : CharSet := ⟨(changesOf (codes.mergeSort (· ≤ ·))).toArray⟩

def ofRanges (ranges : List (Char × Char)) : CharSet :=
  unionOf (ranges.map fun r => range r.1 r.2)

end Conform.CharSet
