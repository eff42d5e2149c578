import Conform.Proofs.StringBounds
import Conform.Rule.Compilation
import Mathlib.Data.String.Basic

/-! Counts of units. They are those of any encoding that the text can be read back from, they add
up, and no text has more units than bytes, so that they can be summed up in machine words. -/

namespace Conform.Text

variable {s : String} {c : Char} {cs : List Char} {greatest units : Nat}

/-- The sum of two machine words, if it is not above the greatest word. -/
def addWords? (greatest m n : Nat) : Option Nat :=
  if m + n ≤ greatest then some (m + n) else none

/-- The units of a text, summed up in machine words. No count is left of a sum that overflows at
some character. -/
def wordUnits? (greatest : Nat) (s : String) : Option Nat :=
  s.toList.foldlM (fun units c => addWords? greatest units (charUnits c)) 0

theorem charUnits_of_lt (h : c.toNat < 0x10000) : charUnits c = 1 := if_pos h

theorem charUnits_of_le (h : 0x10000 ≤ c.toNat) : charUnits c = 2 := if_neg (Nat.not_lt.mpr h)

/-- What is read back says how many units it was read from: a code above the basic plane comes from
two of them, and any other code from one. -/
theorem length_of_codes_eq {us : List UInt16} (h : codes us = cs.map Char.toNat) :
    us.length = (cs.flatMap charUtf16).length := by
  -- The induction is on the reader. Whatever it takes for the second half of a pair, the code that
  -- it puts together is too great for one unit.
  fun_induction codes us generalizing cs with
  | case1 =>
    rw [List.map_eq_nil_iff.mp h.symm]
    rfl
  | case2 u =>
    obtain ⟨c, rest, rfl, hc, hrest⟩ := List.map_eq_cons_iff.mp h.symm
    have hone : charUnits c = 1 := charUnits_of_lt (hc ▸ u.toNat_lt)
    rw [List.map_eq_nil_iff.mp hrest, length_flatMap_charUtf16_cons, hone]
    rfl
  | case3 u w units hsurrogate ih =>
    obtain ⟨c, rest, rfl, hc, hrest⟩ := List.map_eq_cons_iff.mp h.symm
    have htwo : charUnits c = 2 := charUnits_of_le (by omega)
    have hunits := ih hrest.symm
    rw [length_flatMap_charUtf16_cons, htwo, List.length_cons, List.length_cons]
    omega
  | case4 u w units hsurrogate ih =>
    obtain ⟨c, rest, rfl, hc, hrest⟩ := List.map_eq_cons_iff.mp h.symm
    have hone : charUnits c = 1 := charUnits_of_lt (hc ▸ u.toNat_lt)
    have hunits := ih hrest.symm
    rw [length_flatMap_charUtf16_cons, hone, List.length_cons]
    omega

theorem utf16_append (s t : String) : utf16 (s ++ t) = utf16 s ++ utf16 t := by
  rw [utf16, String.toList_append, List.flatMap_append, utf16, utf16]

theorem units16_append (s t : String) : units16 (s ++ t) = units16 s + units16 t := by
  rw [← length_utf16, utf16_append, List.length_append, length_utf16, length_utf16]

/-- Two units are needed just for the characters that take four bytes. -/
theorem charUnits_le_utf8Size (c : Char) : charUnits c ≤ c.utf8Size := by
  rcases Nat.lt_or_ge c.toNat 0x10000 with h | h
  · rw [charUnits_of_lt h]
    exact c.utf8Size_pos
  · have hfour : c.utf8Size = 4 := Char.utf8Size_eq_four_iff.mpr (UInt32.lt_iff_toNat_lt.mpr h)
    rw [charUnits_of_le h, hfour]
    decide

theorem length_flatMap_charUtf16_le (cs : List Char) :
    (cs.flatMap charUtf16).length ≤ String.utf8Len cs := by
  induction cs with
  | nil => exact Nat.le_refl 0
  | cons c rest ih =>
    have hc := charUnits_le_utf8Size c
    rw [length_flatMap_charUtf16_cons, String.utf8Len_cons]
    omega

theorem units16_le_utf8ByteSize (s : String) : units16 s ≤ s.utf8ByteSize := by
  have hbytes : s.utf8ByteSize = String.utf8Len s.toList := by
    rw [← String.utf8ByteSize_ofList, String.ofList_toList]
  rw [← length_utf16, hbytes]
  exact length_flatMap_charUtf16_le s.toList

/-- Sums only grow, so that one that overflows on the way is too great in the end. -/
theorem foldlM_addWords? (cs : List Char) (h : units ≤ greatest) :
    cs.foldlM (fun units c => addWords? greatest units (charUnits c)) units =
      if units + (cs.flatMap charUtf16).length ≤ greatest then
        some (units + (cs.flatMap charUtf16).length)
      else none := by
  induction cs generalizing units with
  | nil => exact (if_pos h).symm
  | cons c rest ih =>
    rw [List.foldlM_cons, length_flatMap_charUtf16_cons, ← Nat.add_assoc]
    by_cases hc : units + charUnits c ≤ greatest
    · rw [addWords?, if_pos hc]
      exact ih hc
    · rw [addWords?, if_neg hc, if_neg (by omega)]
      rfl

theorem wordUnits?_eq (greatest : Nat) (s : String) :
    wordUnits? greatest s = if units16 s ≤ greatest then some (units16 s) else none := by
  rw [wordUnits?, foldlM_addWords? s.toList (Nat.zero_le greatest), Nat.zero_add, ← length_utf16,
    utf16]

theorem wordUnits?_of_utf8ByteSize_le (h : s.utf8ByteSize ≤ greatest) :
    wordUnits? greatest s = some (units16 s) := by
  rw [wordUnits?_eq, if_pos (Nat.le_trans (units16_le_utf8ByteSize s) h)]

/-- The length of a text is the number of units of its encoding, and of whatever else the text can
be read back from. It adds up over texts and is not above the number of bytes, so no sum on the way
overflows a word that can hold that number. This length is what bounds on a string are held to. -/
theorem units_are_counted_exactly (s : String) :
    (units16 s = (utf16 s).length ∧ codes (utf16 s) = s.toList.map Char.toNat) ∧
      (∀ us, codes us = s.toList.map Char.toNat → us.length = units16 s) ∧
      (∀ t, units16 (s ++ t) = units16 s + units16 t) ∧
      units16 s ≤ s.utf8ByteSize ∧
      (∀ greatest, s.utf8ByteSize ≤ greatest → wordUnits? greatest s = some (units16 s)) ∧
      ∀ o rule, (StringRule.compile o).result = .ok rule → ∀ w,
        rule.violation? (.string s) = some w ↔ o.Breaks (.string s) w := by
  refine ⟨⟨(length_utf16 s).symm, codes_utf16 s⟩, ?_, units16_append s,
    units16_le_utf8ByteSize s, ?_, ?_⟩
  · intro us h
    rw [← length_utf16]
    exact length_of_codes_eq h
  · intro greatest h
    exact wordUnits?_of_utf8ByteSize_le h
  · intro o rule h w
    rw [StringRule.result_compile] at h
    exact StringRule.violation?_eq_some_iff h

/-- The last character of the basic plane and the first one above it: three units in seven bytes.
They break a bound of two, and words that end at two cannot hold their count. -/
theorem units_are_counted_exactly_border :
    codes [0xFFFF, 0xD800, 0xDC00] = "\uffff𐀀".toList.map Char.toNat ∧
      [0xFFFF, 0xD800, 0xDC00].length = units16 "\uffff𐀀" ∧ "\uffff𐀀".utf8ByteSize ≤ 7 ∧
      wordUnits? 7 "\uffff𐀀" = some 3 ∧ wordUnits? 2 "\uffff𐀀" = none ∧
      (StringRule.compile ⟨none, none, none, some 2⟩).result =
        .ok ⟨.between none (some 2), none⟩ ∧
      StringOptions.Breaks ⟨none, none, none, some 2⟩ (.string "\uffff𐀀") (.tooLong 2 3) := by
  obtain ⟨-, hlength, -, -, hwords, hrule⟩ := units_are_counted_exactly "\uffff𐀀"
  have hcodes : codes [0xFFFF, 0xD800, 0xDC00] = "\uffff𐀀".toList.map Char.toNat := by decide
  have hbytes : "\uffff𐀀".utf8ByteSize ≤ 7 := by decide
  have hcompile : (StringRule.compile ⟨none, none, none, some 2⟩).result =
      .ok ⟨.between none (some 2), none⟩ := rfl
  have hcount : wordUnits? 7 "\uffff𐀀" = some 3 := hwords 7 hbytes
  have hlong := (hrule _ _ hcompile (.tooLong 2 3)).mp rfl
  exact ⟨hcodes, hlength _ hcodes, hbytes, hcount, by decide, hcompile, hlong⟩

end Conform.Text
