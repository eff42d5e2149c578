import Conform.CharSet.Basic

/-! How the characters of a set are written in UTF-8: as sequences of byte ranges. -/

namespace Conform.CharSet

/-- The first and the last of a range of bytes. -/
abbrev ByteRange := Nat × Nat

def anyContinuation : ByteRange := (0x80, 0xBF)

/-- The sequences for the codes from `first` to `last`, each with the given number of bytes after
its first byte, to which `lead` is added. -/
def byteSequences : Nat → Nat → Nat → Nat → List (List ByteRange)
  | 0, lead, first, last => [[(lead + first, lead + last)]]
  | count + 1, lead, first, last =>
    let unit := 1 <<< (6 * (count + 1))
    let low := first / unit
    let high := last / unit
    let below (byte first last : Nat) :=
      (byteSequences count 0x80 first last).map ((lead + byte, lead + byte) :: ·)
    if low = high then below low (first % unit) (last % unit)
    else
      let fromLow := first % unit = 0
      let toHigh := last % unit = unit - 1
      let start := if fromLow then low else low + 1
      let stop := if toHigh then high + 1 else high
      (if fromLow then [] else below low (first % unit) (unit - 1)) ++
        (if start < stop then
          [(lead + start, lead + stop - 1) :: List.replicate (count + 1) anyContinuation]
        else []) ++
        if toHigh then [] else below high 0 (last % unit)

/-- The code points with a given number of bytes after the first one, and what is added to it. The
code points between the third and the fourth stretch stand for no character. -/
def utf8Stretches : List (Nat × Nat × Nat × Nat) :=
  [(0, 0, 0, 0x7F), (1, 0xC0, 0x80, 0x7FF), (2, 0xE0, 0x800, 0xD7FF), (2, 0xE0, 0xE000, 0xFFFF),
    (3, 0xF0, 0x10000, 0x10FFFF)]

def utf8Sequences (set : CharSet) : List (List ByteRange) :=
  set.ranges.flatMap fun (first, last) =>
    utf8Stretches.flatMap fun (count, lead, low, high) =>
      let first := Nat.max first low
      let last := Nat.min last high
      if first ≤ last then byteSequences count lead first last else []

end Conform.CharSet
