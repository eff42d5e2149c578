/-! Text length in 16-bit units: a character outside the basic plane counts as two. -/

namespace Conform.Text

def charUnits (c : Char) : Nat := if c.toNat < 0x10000 then 1 else 2

def units16 (s : String) : Nat := s.toList.foldl (fun units c => units + charUnits c) 0

end Conform.Text
