import Conform.Text.Units

/-! The 16-bit units that a length counts are those of an encoding from which the text can be read
back. -/

namespace Conform.Text

/-- The code of a character, or a surrogate pair for what a code is above the basic plane. -/
def charUtf16 (c : Char) : List UInt16 :=
  if c.toNat < 0x10000 then [.ofNat c.toNat]
  else
    let bits := c.toNat - 0x10000
    [.ofNat (0xD800 + bits / 0x400), .ofNat (0xDC00 + bits % 0x400)]

def utf16 (s : String) : List UInt16 := s.toList.flatMap charUtf16

/-- The codes that units stand for. A high surrogate is taken together with the unit after it. -/
def codes : List UInt16 → List Nat
  | [] => []
  | [u] => [u.toNat]
  | u :: w :: rest =>
    if 0xD800 ≤ u.toNat ∧ u.toNat < 0xDC00 then
      (0x10000 + (u.toNat - 0xD800) * 0x400 + (w.toNat - 0xDC00)) :: codes rest
    else u.toNat :: codes (w :: rest)

theorem toNat_ofNat_of_lt {n : Nat} (h : n < 0x10000) : (UInt16.ofNat n).toNat = n :=
  UInt16.toNat_ofNat_of_lt' h

theorem codes_cons {n : Nat} (h : n < 0x10000) (hsurrogate : ¬ (0xD800 ≤ n ∧ n < 0xDC00))
    (rest : List UInt16) : codes (.ofNat n :: rest) = n :: codes rest := by
  cases rest with
  | nil => rw [codes, codes, toNat_ofNat_of_lt h]
  | cons w rest => rw [codes, toNat_ofNat_of_lt h, if_neg hsurrogate]

/-- A pair of surrogates is read as one code point. -/
theorem codes_surrogates {n : Nat} (h : n < 0x100000) (rest : List UInt16) :
    codes (.ofNat (0xD800 + n / 0x400) :: .ofNat (0xDC00 + n % 0x400) :: rest) =
      (0x10000 + n) :: codes rest := by
  have hcode : 0x10000 + (0xD800 + n / 0x400 - 0xD800) * 0x400 + (0xDC00 + n % 0x400 - 0xDC00) =
      0x10000 + n := by omega
  rw [codes, toNat_ofNat_of_lt (by omega), toNat_ofNat_of_lt (by omega), if_pos (by omega), hcode]

/-- The units of a character are read as it, whatever follows. -/
theorem codes_charUtf16 (c : Char) (rest : List UInt16) :
    codes (charUtf16 c ++ rest) = c.toNat :: codes rest := by
  -- No character has the code of a surrogate.
  have hvalid : c.toNat < 0xD800 ∨ 0xDFFF < c.toNat ∧ c.toNat < 0x110000 := c.valid
  unfold charUtf16
  split
  · exact codes_cons (by omega) (by omega) rest
  · rw [List.cons_append, List.singleton_append, codes_surrogates (by omega),
      Nat.add_sub_cancel' (by omega)]

/-- A text can be read back from its units. -/
theorem codes_utf16 (s : String) : codes (utf16 s) = s.toList.map Char.toNat := by
  unfold utf16
  induction s.toList with
  | nil => rfl
  | cons c rest ih => rw [List.flatMap_cons, codes_charUtf16, ih, List.map_cons]

theorem length_charUtf16 (c : Char) : (charUtf16 c).length = charUnits c := by
  unfold charUtf16 charUnits
  split <;> rfl

theorem length_flatMap_charUtf16_cons (c : Char) (cs : List Char) :
    ((c :: cs).flatMap charUtf16).length = charUnits c + (cs.flatMap charUtf16).length := by
  rw [List.flatMap_cons, List.length_append, length_charUtf16]

theorem foldl_charUnits (cs : List Char) (n : Nat) :
    cs.foldl (fun units c => units + charUnits c) n = n + (cs.flatMap charUtf16).length := by
  induction cs generalizing n with
  | nil => rfl
  | cons c rest ih => rw [List.foldl_cons, ih, length_flatMap_charUtf16_cons, Nat.add_assoc]

theorem length_utf16 (s : String) : (utf16 s).length = units16 s := by
  rw [units16, foldl_charUnits, Nat.zero_add, utf16]

end Conform.Text
