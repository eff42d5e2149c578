import Conform.Text.Preview
import Mathlib.Data.String.Basic

/-! Previews cut a text between two of its characters, and show where they have cut it. -/

namespace Conform.Text

variable {s t : String} {limit : Nat}

theorem getElem?_charStarts (cs : List Char) (start index : Nat) :
    (charStarts start cs)[index]? =
      if index < cs.length then some (start + String.utf8Len (cs.take index)) else none := by
  induction cs generalizing start index with
  | nil => rfl
  | cons c rest ih =>
    cases index with
    | zero => simp [charStarts]
    | succ index =>
      rw [charStarts, List.getElem?_cons_succ, ih, List.take_succ_cons, String.utf8Len_cons,
        List.length_cons]
      simp only [Nat.add_lt_add_iff_right]
      split
      · congr 1
        omega
      · rfl

/-- The characters before an index end where the character there starts. -/
theorem charStart?_eq (s : String) (index : Nat) :
    charStart? s index =
      if index < s.length then some (String.utf8Len (s.toList.take index)) else none := by
  rw [charStart?, getElem?_charStarts, Nat.zero_add, String.length_toList]

/-- Where a character starts a text may be cut. -/
theorem isValid_charStart {index cut : Nat} (h : charStart? s index = some cut) :
    String.Pos.Raw.IsValid s ⟨cut⟩ := by
  rw [charStart?_eq] at h
  split at h
  · obtain rfl := Option.some.inj h
    rw [← s.ofList_toList, String.Pos.Raw.isValid_ofList]
    exact ⟨index, by rw [String.toList_ofList, String.utf8ByteSize_ofList]⟩
  · cases h

/-- The bytes before a character are those of the characters before it. -/
theorem extract_charStart {index cut : Nat} (h : charStart? s index = some cut) :
    String.Pos.Raw.extract s 0 ⟨cut⟩ = String.ofList (s.toList.take index) := by
  rw [charStart?_eq] at h
  split at h
  · obtain rfl := Option.some.inj h
    have hextract := String.extract_of_valid [] (s.toList.take index) (s.toList.drop index)
    rw [List.nil_append, List.take_append_drop, String.ofList_toList, String.utf8Len_nil,
      Nat.zero_add] at hextract
    exact hextract
  · cases h

theorem preview_of_le (h : s.length ≤ limit) : preview s limit = s := by
  rw [preview, charStart?_eq, if_neg (Nat.not_lt.mpr h)]

/-- A text that is too long is cut after its first characters, and marked. -/
theorem preview_of_lt (h : limit < s.length) :
    preview s limit = String.ofList (s.toList.take limit) ++ "..." := by
  have hcut : charStart? s limit = some (String.utf8Len (s.toList.take limit)) := by
    rw [charStart?_eq, if_pos h]
  rw [preview, hcut]
  exact congrArg (· ++ "...") (extract_charStart hcut)

theorem toList_preview_of_lt (h : limit < s.length) :
    (preview s limit).toList = s.toList.take limit ++ ['.', '.', '.'] := by
  rw [preview_of_lt h, String.toList_append, String.toList_ofList]
  rfl

theorem length_preview_of_lt (h : limit < s.length) : (preview s limit).length = limit + 3 := by
  rw [← String.length_toList, toList_preview_of_lt h, List.length_append, List.length_take,
    String.length_toList, Nat.min_eq_left h.le]
  rfl

theorem length_preview_le (s : String) (limit : Nat) : (preview s limit).length ≤ limit + 3 := by
  rcases Nat.lt_or_ge limit s.length with h | h
  · exact (length_preview_of_lt h).le
  · rw [preview_of_le h]
    omega

/-- A preview that was cut has more characters than one that was not. -/
theorem length_preview_le_iff : (preview s limit).length ≤ limit ↔ s.length ≤ limit := by
  rcases Nat.lt_or_ge limit s.length with h | h
  · rw [length_preview_of_lt h]
    omega
  · rw [preview_of_le h]

/-- A preview is its own preview. -/
theorem preview_preview (s : String) (limit : Nat) :
    preview (preview s limit) limit = preview s limit := by
  rcases Nat.lt_or_ge limit s.length with h | h
  · have hlong : limit < (preview s limit).length := by
      rw [length_preview_of_lt h]
      omega
    have htake : (preview s limit).toList.take limit = s.toList.take limit := by
      rw [toList_preview_of_lt h, List.take_append_of_le_length, List.take_take, Nat.min_self]
      rw [List.length_take, String.length_toList]
      omega
    -- What is marked as cut is too long again, and is cut at the same place.
    rw [preview_of_lt hlong, htake, preview_of_lt h]
  · rw [preview_of_le h, preview_of_le h]

/-- Two texts have one preview just if both are cut after the same characters, or are the same. -/
theorem preview_eq_iff : preview s limit = preview t limit ↔
    s = t ∨ limit < s.length ∧ limit < t.length ∧
      s.toList.take limit = t.toList.take limit := by
  constructor
  · intro h
    rcases Nat.lt_or_ge limit s.length with hs | hs
    · have ht : limit < t.length := by
        rw [← Nat.not_le, ← length_preview_le_iff, ← h, length_preview_le_iff, Nat.not_le]
        exact hs
      have hlists := congrArg String.toList h
      rw [toList_preview_of_lt hs, toList_preview_of_lt ht] at hlists
      exact .inr ⟨hs, ht, List.append_cancel_right hlists⟩
    · have ht : t.length ≤ limit := by
        rw [← length_preview_le_iff, ← h, length_preview_le_iff]
        exact hs
      rw [preview_of_le hs, preview_of_le ht] at h
      exact .inl h
  · rintro (rfl | ⟨hs, ht, htake⟩)
    · rfl
    · rw [preview_of_lt hs, preview_of_lt ht, htake]

/-- A preview cuts, if it does, between characters. It keeps a text that is short enough and cuts
any other one after the same number of characters, another preview changes nothing, and texts with
one preview are the same, or both are too long and alike up to the cut. -/
theorem preview_cuts_between_characters (s : String) (limit : Nat) :
    (∀ cut ∈ charStart? s limit, String.Pos.Raw.IsValid s ⟨cut⟩) ∧
      (s.length ≤ limit → preview s limit = s) ∧
      (limit < s.length → preview s limit = String.ofList (s.toList.take limit) ++ "...") ∧
      preview (preview s limit) limit = preview s limit ∧
      ∀ t, preview s limit = preview t limit ↔
        s = t ∨ limit < s.length ∧ limit < t.length ∧
          s.toList.take limit = t.toList.take limit :=
  ⟨fun _ => isValid_charStart, preview_of_le, preview_of_lt, preview_preview s limit,
    fun _ => preview_eq_iff⟩

/-- A cut in front of a character of three bytes, after which the text reads as another one that
ends in dots. -/
theorem preview_cuts_between_characters_dots :
    charStart? "日本語" 2 = some 6 ∧ String.Pos.Raw.IsValid "日本語" ⟨6⟩ ∧
      2 < "日本語".length ∧ preview "日本語" 2 = String.ofList ['日', '本'] ++ "..." ∧
      preview "日本語" 2 = preview "日本..." 2 ∧
      preview "日本..." 6 = "日本..." ∧ preview "日本語" 6 ≠ preview "日本..." 6 := by
  obtain ⟨hvalid, -, hcut, -, halike⟩ := preview_cuts_between_characters "日本語" 2
  obtain ⟨-, hkept, -, -, hlonger⟩ := preview_cuts_between_characters "日本..." 6
  have hne : preview "日本語" 6 ≠ preview "日本..." 6 := by
    intro h
    rcases (hlonger "日本語").mp h.symm with h | ⟨h, -, -⟩
    · exact absurd h (by decide)
    · exact absurd h (by decide)
  have hstart : charStart? "日本語" 2 = some 6 := by decide
  have hsame : preview "日本語" 2 = preview "日本..." 2 :=
    (halike "日本...").mpr (.inr ⟨by decide, by decide, by decide⟩)
  exact ⟨hstart, hvalid 6 hstart, by decide, hcut (by decide), hsame, hkept (by decide), hne⟩

end Conform.Text
