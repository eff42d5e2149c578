import Conform.Proofs.Digits
import Conform.Proofs.Nearest
import Conform.Value.Property

/-! Keys of arrays: each element is read under the one text that its index is written with, the
length under its name, and nothing under any other key. -/

namespace Conform

variable {key : String} {i : Nat}

theorem readIndex?_eq_some :
    readIndex? key = some i ↔
      IsPlainDigits key.toList ∧ Nat.ofDigitChars 10 key.toList 0 = i ∧ i < indexBound := by
  unfold readIndex?
  constructor
  · intro h
    simp only at h
    split at h
    next => cases h
    next hplain =>
      split at h
      next hdigits =>
        simp only [Bool.or_eq_true, List.isEmpty_iff, Bool.and_eq_true, decide_eq_true_eq,
          beq_iff_eq, not_or, not_and] at hplain
        simp only [Bool.and_eq_true, List.all_eq_true, decide_eq_true_eq] at hdigits
        obtain rfl := Option.some.inj h
        refine ⟨⟨hplain.1, hdigits.1, fun hhead => ?_⟩, rfl, hdigits.2⟩
        obtain ⟨rest, hrest⟩ := List.head?_eq_some_iff.mp hhead
        have hlength : ¬ 1 < key.toList.length := fun hlength => hplain.2 hlength hhead
        rw [hrest, List.length_cons] at hlength
        rw [hrest, List.eq_nil_of_length_eq_zero (by omega : rest.length = 0)]
      next => cases h
  · rintro ⟨hplain, rfl, hi⟩
    have hlength : ¬ (1 < key.toList.length ∧ key.toList.head? = some '0') := by
      rintro ⟨hlength, hhead⟩
      rw [hplain.zero hhead] at hlength
      exact absurd hlength (by decide)
    have hdigits := List.all_eq_true.mpr hplain.digits
    simp [hplain.nonempty, hlength, hdigits, hi]

/-- Reading an index and writing one undo each other. -/
theorem readIndex?_eq_some_iff : readIndex? key = some i ↔ i < indexBound ∧ key = Nat.repr i := by
  rw [readIndex?_eq_some]
  constructor
  · rintro ⟨hplain, rfl, hi⟩
    refine ⟨hi, String.toList_injective ?_⟩
    rw [Nat.toList_repr, hplain.toDigits]
  · rintro ⟨hi, rfl⟩
    rw [Nat.toList_repr]
    exact ⟨isPlainDigits_toDigits i, Nat.ofDigitChars_ten_toDigits, hi⟩

/-- No index is written like the name of the length. -/
theorem repr_ne_length (i : Nat) : Nat.repr i ≠ "length" := by
  intro h
  have hdigits := (isPlainDigits_toDigits i).digits
  rw [← Nat.toList_repr, h] at hdigits
  exact absurd (hdigits 'l' (by simp)) (by decide)

namespace Value

/-- What an array has under its keys. -/
inductive ArrayHas (items : List Value) : String → Value → Prop where
  | element (i : Nat) (hi : i < items.length) : ArrayHas items (Nat.repr i) items[i]
  | length : ArrayHas items "length" (number (.ofNat items.length))
  | nothing {key : String} : key ≠ "length" → (∀ i < items.length, key ≠ Nat.repr i) →
      ArrayHas items key undefined

variable {items : List Value} {v : Value} {id : Nat}

theorem property_array_element (hitems : items.length ≤ indexBound) (hi : i < items.length) :
    (array id items).property (Nat.repr i) = items[i] := by
  have hread : readIndex? (Nat.repr i) = some i :=
    readIndex?_eq_some_iff.mpr ⟨Nat.lt_of_lt_of_le hi hitems, rfl⟩
  rw [property, if_neg (repr_ne_length i), hread, Option.bind_some, List.getElem?_eq_getElem hi,
    Option.getD_some]

/-- Under a key that names neither an element nor the length there is nothing. -/
theorem property_array_nothing (hlength : key ≠ "length")
    (hkey : ∀ i < items.length, key ≠ Nat.repr i) :
    (array id items).property key = undefined := by
  rw [property, if_neg hlength]
  cases hread : readIndex? key with
  | none => rfl
  | some i =>
    obtain ⟨-, hrepr⟩ := readIndex?_eq_some_iff.mp hread
    have hi : items.length ≤ i := Nat.not_lt.mp fun hi => hkey i hi hrepr
    rw [Option.bind_some, List.getElem?_eq_none hi, Option.getD_none]

theorem property_array_iff (hitems : items.length ≤ indexBound) :
    (array id items).property key = v ↔ ArrayHas items key v := by
  constructor
  · rintro rfl
    by_cases hlength : key = "length"
    · subst hlength
      exact .length
    · by_cases hkey : ∃ i, i < items.length ∧ key = Nat.repr i
      · obtain ⟨i, hi, rfl⟩ := hkey
        rw [property_array_element hitems hi]
        exact .element i hi
      · have hkey : ∀ i < items.length, key ≠ Nat.repr i := by simpa using hkey
        rw [property_array_nothing hlength hkey]
        exact .nothing hlength hkey
  · intro h
    cases h with
    | element i hi => exact property_array_element hitems hi
    | length => rfl
    | nothing hlength hkey => exact property_array_nothing hlength hkey

/-- An index is read from the text that it is written as, which is all of plain digits, and from no
other. So an array has each element under one key, and under no other key anything but the length,
rounded to a number. -/
theorem elements_have_one_key :
    (∀ key i, readIndex? key = some i ↔ i < indexBound ∧ key = Nat.repr i) ∧
      (∀ key, (readIndex? key).isSome = true ↔
        IsPlainDigits key.toList ∧ Nat.ofDigitChars 10 key.toList 0 < indexBound) ∧
      (∀ id (items : List Value), items.length ≤ indexBound → ∀ key v,
        (array id items).property key = v ↔ ArrayHas items key v) ∧
      ∀ items : List Value, (Number.ofNat items.length).IsNearest items.length := by
  refine ⟨fun key i => readIndex?_eq_some_iff, fun key => ?_,
    fun id items hitems key v => property_array_iff hitems, fun items => Number.isNearest_ofNat _⟩
  rw [Option.isSome_iff_exists]
  constructor
  · rintro ⟨i, hi⟩
    obtain ⟨hplain, rfl, hbound⟩ := readIndex?_eq_some.mp hi
    exact ⟨hplain, hbound⟩
  · rintro ⟨hplain, hbound⟩
    exact ⟨_, readIndex?_eq_some.mpr ⟨hplain, rfl, hbound⟩⟩

/-- A superfluous zero, or digits past the greatest index, are keys of nothing. -/
theorem elements_have_one_key_pair :
    [string "a", string "b"].length ≤ indexBound ∧
      (array 0 [string "a", string "b"]).property "1" = string "b" ∧
      (array 0 [string "a", string "b"]).property "01" = undefined ∧
      (array 0 [string "a", string "b"]).property "18446744073709551616" = undefined := by
  have hlength : [string "a", string "b"].length ≤ indexBound := by decide
  obtain ⟨-, -, hkeys, -⟩ := elements_have_one_key
  have hkey {key : String} (h0 : key ≠ "0") (h1 : key ≠ "1") :
      ∀ i < [string "a", string "b"].length, key ≠ Nat.repr i := by
    intro i hi
    obtain rfl | rfl : i = 0 ∨ i = 1 := by
      have : i < 2 := hi
      omega
    · exact h0
    · exact h1
  refine ⟨hlength, (hkeys 0 _ hlength _ _).mpr (.element 1 (by decide)),
    (hkeys 0 _ hlength _ _).mpr (.nothing (by decide) (hkey (by decide) (by decide))),
    (hkeys 0 _ hlength _ _).mpr (.nothing (by decide) (hkey (by decide) (by decide)))⟩

end Value

end Conform
