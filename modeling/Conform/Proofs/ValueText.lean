import Conform.Json.Token
import Conform.Proofs.NumberReading
import Conform.Value.Text
import Mathlib.Data.List.Forall2

/-! The written form of values that are put together from data. What a text starts with is read in
one way only: a value that is written at the front of it is determined, and so is what follows. -/

namespace Conform

open DecimalLiteral (Ends)

namespace Text

/-- What a scan of quoted text comes to. -/
def scanned (cs : List Char) : Option (List Nat × List Char) :=
  (Json.scanUnits cs).map fun p => (p.1, p.2.1)

theorem hexNumber?_hexPair : ∀ n < 0x20, hexNumber? ('0' :: '0' :: hexPair n) = some n := by
  decide

theorem scanned_shortEscape {e c : Char} (he : e ≠ 'u') (h : Json.shortEscape? e = some c)
    (more : List Char) :
    scanned ('\\' :: e :: more) = (scanned more).map fun p => (c.toNat :: p.1, p.2) := by
  rw [scanned, Json.scanUnits, h, scanned]
  · cases Json.scanUnits more <;> rfl
  · rintro _ _ _ _ _ rfl
    exact (he rfl).elim

theorem scanned_hexEscape {a b c d : Char} {n : Nat} (h : hexNumber? [a, b, c, d] = some n)
    (more : List Char) :
    scanned ('\\' :: 'u' :: a :: b :: c :: d :: more) =
      (scanned more).map fun p => (n :: p.1, p.2) := by
  rw [scanned, Json.scanUnits, h, scanned]
  cases Json.scanUnits more <;> rfl

theorem scanned_plain {c : Char} (hquote : c ≠ '"') (hslash : c ≠ '\\') (hc : ¬ c.toNat < 0x20)
    (more : List Char) :
    scanned (c :: more) = (scanned more).map fun p => (c.toNat :: p.1, p.2) := by
  rw [scanned, Json.scanUnits, if_neg hc, scanned]
  · cases Json.scanUnits more <;> rfl
  · exact hquote
  · rintro _ _ _ _ _ rfl
    exact (hslash rfl).elim
  · rintro _ _ rfl
    exact (hslash rfl).elim

/-- A quoted character is read as its code. -/
theorem scanned_escapeQuoted (c : Char) (more : List Char) :
    scanned (escapeQuoted c ++ more) = (scanned more).map fun p => (c.toNat :: p.1, p.2) := by
  have hshort {e d : Char} (he : e ≠ 'u') (h : Json.shortEscape? e = some d) (hc : c = d) :
      scanned (['\\', e] ++ more) = (scanned more).map fun p => (c.toNat :: p.1, p.2) :=
    hc ▸ scanned_shortEscape he h more
  unfold escapeQuoted
  split_ifs with hquote hslash hb hf hn hr ht hcontrol
  · exact hshort (by decide) rfl hquote
  · exact hshort (by decide) rfl hslash
  · exact hshort (by decide) rfl hb
  · exact hshort (by decide) rfl hf
  · exact hshort (by decide) rfl hn
  · exact hshort (by decide) rfl hr
  · exact hshort (by decide) rfl ht
  · exact scanned_hexEscape (hexNumber?_hexPair _ hcontrol) more
  · exact scanned_plain hquote hslash hcontrol more

/-- Quoted text is read up to the quote that closes it. -/
theorem scanned_flatMap_escapeQuoted (cs rest : List Char) :
    scanned (cs.flatMap escapeQuoted ++ '"' :: rest) = some (cs.map Char.toNat, rest) := by
  induction cs with
  | nil => rfl
  | cons c cs ih =>
    rw [List.flatMap_cons, List.append_assoc, scanned_escapeQuoted, ih]
    rfl

theorem toList_quoted (s : String) (rest : List Char) :
    (quoted s).toList ++ rest = '"' :: (s.toList.flatMap escapeQuoted ++ '"' :: rest) := by
  simp [quoted]

/-- A quoted text is told from all others at the front of a text. -/
theorem eq_of_append_quoted {s t : String} {r r' : List Char}
    (h : (quoted s).toList ++ r = (quoted t).toList ++ r') : s = t ∧ r = r' := by
  rw [toList_quoted, toList_quoted] at h
  have hscanned := congrArg scanned (List.cons.inj h).2
  rw [scanned_flatMap_escapeQuoted, scanned_flatMap_escapeQuoted, Option.some.injEq,
    Prod.mk.injEq] at hscanned
  obtain ⟨hcodes, hrest⟩ := hscanned
  have hinjective : Function.Injective Char.toNat := fun c d hcd => by
    rw [← Char.ofNat_toNat c, hcd, Char.ofNat_toNat]
  exact ⟨String.toList_injective (hinjective.list_map hcodes), hrest⟩

end Text

namespace Value

variable {v w : Value} {r s : List Char}

/-- Values put together from data: no symbols, objects, patterns or functions are in them. -/
inductive IsData : Value → Prop where
  | undefined : IsData .undefined
  | null : IsData .null
  | boolean (b : Bool) : IsData (.boolean b)
  | number (n : Number) : IsData (.number n)
  | bigint (n : Int) : IsData (.bigint n)
  | string (s : String) : IsData (.string s)
  | array (id : Nat) {items : List Value} : (∀ v ∈ items, IsData v) → IsData (.array id items)

/-- Values with the same data in the same places. The zeros are the same, and so is NaN. -/
inductive SameData : Value → Value → Prop where
  | undefined : SameData .undefined .undefined
  | null : SameData .null .null
  | boolean (b : Bool) : SameData (.boolean b) (.boolean b)
  | number {a b : Number} : a.equals b = true ∨ a.isNaN = true ∧ b.isNaN = true →
      SameData (.number a) (.number b)
  | bigint (n : Int) : SameData (.bigint n) (.bigint n)
  | string (s : String) : SameData (.string s) (.string s)
  | array (i j : Nat) {xs ys : List Value} : List.Forall₂ SameData xs ys →
      SameData (.array i xs) (.array j ys)

/-- The written form, as the characters before what follows it. -/
def chars (v : Value) (rest : List Char) : List Char := v.text.toList ++ rest

/-- The elements of an array after the first, and the end of the array. -/
def moreChars : List Value → List Char → List Char
  | [], rest => ']' :: rest
  | v :: items, rest => ',' :: ' ' :: v.chars (moreChars items rest)

/-- The elements of an array, and the end of the array. -/
def itemChars : List Value → List Char → List Char
  | [], rest => ']' :: rest
  | v :: items, rest => v.chars (moreChars items rest)

theorem intercalate_texts (v : Value) (items : List Value) (rest : List Char) :
    (", ".intercalate (texts (v :: items))).toList ++ ']' :: rest =
      v.chars (moreChars items rest) := by
  induction items generalizing v with
  | nil => simp [texts, chars, moreChars]
  | cons w items ih =>
    rw [texts, texts, String.intercalate_cons_cons, ← texts, String.toList_append,
      String.toList_append, List.append_assoc, List.append_assoc, ih]
    rfl

theorem chars_array (id : Nat) (items : List Value) (rest : List Char) :
    (array id items).chars rest = '[' :: itemChars items rest := by
  rw [chars, text, String.toList_append, String.toList_append]
  cases items with
  | nil => rfl
  | cons v items =>
    rw [itemChars, ← intercalate_texts]
    simp

/-- What may follow a value: nothing, or what separates or closes elements. -/
def Closes (rest : List Char) : Prop := ∀ c ∈ rest.head?, c = ',' ∨ c = ']'

theorem Closes.ends (h : Closes r) : Ends r := by
  intro c hc
  rcases h c hc with rfl | rfl <;> decide

theorem closes_moreChars (items : List Value) (rest : List Char) :
    Closes (moreChars items rest) := by
  cases items with
  | nil => simp [Closes, moreChars]
  | cons v items => simp [Closes, moreChars]

/-- The literal before the last character of a big integer. -/
def bigintLiteral (n : Int) : DecimalLiteral := ⟨n < 0, Nat.toDigits 10 n.natAbs, none, none⟩

theorem isSpelled_bigintLiteral (n : Int) : (bigintLiteral n).IsSpelled :=
  ⟨Nat.toDigits_ne_nil, fun _ => isDigit_of_mem_toDigits, by simp [bigintLiteral]⟩

theorem chars_bigint (n : Int) (rest : List Char) :
    (bigint n).chars rest = (bigintLiteral n).chars ++ 'n' :: rest := by
  by_cases hn : n < 0
  · simp [chars, text, bigintLiteral, DecimalLiteral.chars, DecimalLiteral.unsignedChars,
      DecimalLiteral.signChars, DecimalLiteral.fractionChars, DecimalLiteral.exponentChars,
      Number.signText, hn]
  · simp [chars, text, bigintLiteral, DecimalLiteral.chars, DecimalLiteral.unsignedChars,
      DecimalLiteral.signChars, DecimalLiteral.fractionChars, DecimalLiteral.exponentChars,
      Number.signText, hn]

theorem scan_bigint (n : Int) (rest : List Char) :
    DecimalLiteral.scan ((bigint n).chars rest) = (bigintLiteral n, 'n' :: rest) := by
  rw [chars_bigint]
  refine DecimalLiteral.scan_chars (isSpelled_bigintLiteral n) ?_
  rintro c ⟨⟩
  decide

/-- A written integer of any size is told from all others at the front of a text. -/
theorem eq_of_bigint {m n : Int} (h : (bigint m).chars r = (bigint n).chars s) :
    m = n ∧ r = s := by
  have hscan := scan_bigint m r
  rw [h, scan_bigint, Prod.mk.injEq] at hscan
  obtain ⟨hliteral, hrest⟩ := hscan
  have hvalue := congrArg DecimalLiteral.digitsValue (congrArg DecimalLiteral.whole hliteral)
  have habs : n.natAbs = m.natAbs := by
    simpa [bigintLiteral, DecimalLiteral.digitsValue] using hvalue
  have hsign : decide (n < 0) = decide (m < 0) := congrArg DecimalLiteral.negative hliteral
  rw [decide_eq_decide] at hsign
  exact ⟨by omega, (List.cons.inj hrest).2.symm⟩

/-- A number is not followed by what ends a big integer. -/
theorem number_ne_bigint {a : Number} {n : Int} (hr : Closes r) :
    (number a).chars r ≠ (bigint n).chars s := by
  intro h
  have hscan := scan_bigint n s
  rw [← h] at hscan
  cases ha : a.literal? with
  | none =>
    have hwhole := Number.whole_scan_of_literal?_eq_none ha r
    rw [show a.text.toList ++ r = (number a).chars r from rfl, hscan] at hwhole
    exact Nat.toDigits_ne_nil hwhole
  | some l =>
    obtain ⟨hl, htext, -⟩ := Number.text_of_literal? ha
    rw [chars, text, htext, DecimalLiteral.scan_chars hl hr.ends, Prod.mk.injEq] at hscan
    obtain ⟨-, rfl⟩ := hscan
    simpa using hr 'n' rfl

/-- What the written form starts with. One character stands for every start of a number, and one for
both booleans. -/
def opening : Value → Char
  | undefined => 'u'
  | null => 'n'
  | boolean _ => 't'
  | number _ | bigint _ => '0'
  | string _ => '"'
  | array _ _ => '['
  | _ => ' '

def openingOf (c : Char) : Char :=
  if c.isDigit ∨ c = '-' ∨ c = 'N' ∨ c = 'I' then '0' else if c = 'f' then 't' else c

theorem head?_literal {l : DecimalLiteral} (h : l.IsSpelled) (rest : List Char) :
    (l.chars ++ rest).head?.map openingOf = some '0' := by
  obtain ⟨c, digits, hwhole⟩ := List.exists_cons_of_ne_nil h.nonempty
  have hc : c.isDigit = true := h.whole c (by simp [hwhole])
  cases hnegative : l.negative with
  | true => simp [DecimalLiteral.chars, DecimalLiteral.signChars, hnegative, openingOf]
  | false =>
    simp [DecimalLiteral.chars, DecimalLiteral.signChars, DecimalLiteral.unsignedChars, hnegative,
      hwhole, openingOf, hc]

theorem head?_chars (hv : v.IsData) (rest : List Char) :
    (v.chars rest).head?.map openingOf = some v.opening := by
  cases hv with
  | undefined | null => rfl
  | boolean b => cases b <;> rfl
  | number n =>
    cases hn : n.literal? with
    | none =>
      cases n with
      | nan => rfl
      | infinity negative => cases negative <;> rfl
      | finite negative m => cases hn
    | some l =>
      obtain ⟨hl, htext, -⟩ := Number.text_of_literal? hn
      rw [chars, text, htext, head?_literal hl]
      rfl
  | bigint n =>
    rw [chars_bigint, head?_literal (isSpelled_bigintLiteral n)]
    rfl
  | string s =>
    rw [chars, text, Text.toList_quoted]
    rfl
  | array id _ =>
    rw [chars_array]
    rfl

/-- How a written value begins says of which variant it is. -/
theorem opening_eq (hv : v.IsData) (hw : w.IsData) (h : v.chars r = w.chars s) :
    v.opening = w.opening := by
  have hheads := congrArg (·.head?.map openingOf) h
  simpa only [head?_chars hv, head?_chars hw, Option.some.injEq] using hheads

theorem chars_ne_bracket (hv : v.IsData) : v.chars r ≠ ']' :: s := by
  intro h
  have hhead := head?_chars hv r
  rw [h] at hhead
  cases hv <;> simp [openingOf, opening] at hhead

/-- Whatever data is written as the value is, it is the same, and the same follows it. -/
def IsReadBack (v : Value) : Prop :=
  ∀ {w : Value} {r s : List Char}, w.IsData → Closes r → Closes s → v.chars r = w.chars s →
    v.SameData w ∧ r = s

section Items

variable {xs ys : List Value}

/-- Lists that are written alike have the same data, element by element. -/
theorem forall₂_of_moreChars (hxs : ∀ v ∈ xs, v.IsReadBack) (hys : ∀ w ∈ ys, w.IsData)
    (h : moreChars xs r = moreChars ys s) : List.Forall₂ SameData xs ys ∧ r = s := by
  induction xs generalizing ys with
  | nil =>
    cases ys with
    | nil => exact ⟨.nil, (List.cons.inj h).2⟩
    | cons w ys => simp [moreChars] at h
  | cons v xs ih =>
    cases ys with
    | nil => simp [moreChars] at h
    | cons w ys =>
      have hchars : v.chars (moreChars xs r) = w.chars (moreChars ys s) := by
        simpa [moreChars] using h
      obtain ⟨hvw, hmore⟩ := hxs v (by simp) (hys w (by simp)) (closes_moreChars xs r)
        (closes_moreChars ys s) hchars
      obtain ⟨hrest, hrs⟩ := ih (fun v hv => hxs v (by simp [hv]))
        (fun w hw => hys w (by simp [hw])) hmore
      exact ⟨.cons hvw hrest, hrs⟩

theorem forall₂_of_itemChars (hxdata : ∀ v ∈ xs, v.IsData) (hxs : ∀ v ∈ xs, v.IsReadBack)
    (hys : ∀ w ∈ ys, w.IsData) (h : itemChars xs r = itemChars ys s) :
    List.Forall₂ SameData xs ys ∧ r = s := by
  cases xs with
  | nil =>
    cases ys with
    | nil => exact ⟨.nil, (List.cons.inj h).2⟩
    | cons w ys => exact (chars_ne_bracket (hys w (by simp)) h.symm).elim
  | cons v xs =>
    cases ys with
    | nil => exact (chars_ne_bracket (hxdata v (by simp)) h).elim
    | cons w ys =>
      -- The first elements are read as those after a separator are.
      refine forall₂_of_moreChars hxs hys ?_
      exact congrArg (fun chars => ',' :: ' ' :: chars) h

end Items

/-- The induction is on the value that is read, with any text after it. -/
theorem IsData.isReadBack (hv : v.IsData) : v.IsReadBack := by
  -- The first character tells the variants apart, save that numbers of both kinds begin alike.
  induction hv with
  | undefined =>
    intro w r s hw hr hs h
    have hopening := opening_eq .undefined hw h
    cases hw with
    | undefined => exact ⟨.undefined, List.append_cancel_left h⟩
    | _ => simp [opening] at hopening
  | null =>
    intro w r s hw hr hs h
    have hopening := opening_eq .null hw h
    cases hw with
    | null => exact ⟨.null, List.append_cancel_left h⟩
    | _ => simp [opening] at hopening
  | boolean b =>
    intro w r s hw hr hs h
    have hopening := opening_eq (.boolean b) hw h
    cases hw with
    | boolean b' =>
      obtain rfl : b = b' := by cases b <;> cases b' <;> simp [chars, text] at h ⊢
      exact ⟨.boolean b, List.append_cancel_left h⟩
    | _ => simp [opening] at hopening
  | number a =>
    intro w r s hw hr hs h
    have hopening := opening_eq (.number a) hw h
    cases hw with
    | number b =>
      obtain ⟨hposition, hrs⟩ := Number.position_eq_of_append hr.ends hs.ends h
      exact ⟨.number (Number.position_eq_iff.mp hposition), hrs⟩
    | bigint n => exact (number_ne_bigint hr h).elim
    | _ => simp [opening] at hopening
  | bigint n =>
    intro w r s hw hr hs h
    have hopening := opening_eq (.bigint n) hw h
    cases hw with
    | bigint m =>
      obtain ⟨rfl, hrs⟩ := eq_of_bigint h
      exact ⟨.bigint n, hrs⟩
    | number b => exact (number_ne_bigint hs h.symm).elim
    | _ => simp [opening] at hopening
  | string t =>
    intro w r s hw hr hs h
    have hopening := opening_eq (.string t) hw h
    cases hw with
    | string t' =>
      obtain ⟨rfl, hrs⟩ := Text.eq_of_append_quoted h
      exact ⟨.string t, hrs⟩
    | _ => simp [opening] at hopening
  | array id hdata ih =>
    intro w r s hw hr hs h
    have hopening := opening_eq (.array id hdata) hw h
    cases hw with
    | array id' hdata' =>
      rw [chars_array, chars_array] at h
      obtain ⟨hitems, hrs⟩ := forall₂_of_itemChars hdata ih hdata' (List.cons.inj h).2
      exact ⟨.array id id' hitems, hrs⟩
    | _ => simp [opening] at hopening

/-- Values with the same data are written alike. -/
theorem SameData.text_eq (hv : v.IsData) (h : v.SameData w) : v.text = w.text := by
  induction hv generalizing w with
  | number a =>
    cases h with
    | number h => exact Number.text_eq_of_position (Number.position_eq_iff.mpr h)
  | @array id xs hdata ih =>
    cases h with
    | @array _ _ _ ys hitems =>
      have htexts : texts xs = texts ys := by
        clear hdata
        induction hitems with
        | nil => rfl
        | cons hxy _ ihrest =>
          rw [texts, texts, ih _ (by simp) hxy, ihrest fun v hv => ih v (by simp [hv])]
      rw [text, text, htexts]
  | _ =>
    cases h
    rfl

/-- Values are written the same just if they have the same data. -/
theorem text_eq_iff_sameData (hv : v.IsData) (hw : w.IsData) : v.text = w.text ↔ v.SameData w := by
  refine ⟨fun h => ?_, fun h => h.text_eq hv⟩
  have hchars : v.chars [] = w.chars [] := by rw [chars, chars, h]
  exact (hv.isReadBack hw (by simp [Closes]) (by simp [Closes]) hchars).1

/-- A separator within a string does not separate elements, and the zeros are written the same. -/
theorem text_eq_iff_sameData_separators :
    IsData (.array 0 [.string "a\", \"b", .number .negativeZero]) ∧
      IsData (.array 1 [.string "a", .string "b", .number (.ofNat 0)]) ∧
      text (.array 0 [.string "a\", \"b", .number .negativeZero]) ≠
        text (.array 1 [.string "a", .string "b", .number (.ofNat 0)]) ∧
      text (.array 0 [.number .negativeZero]) = text (.array 1 [.number (.ofNat 0)]) := by
  have hleft : IsData (.array 0 [.string "a\", \"b", .number .negativeZero]) :=
    .array 0 (by simp [IsData.string, IsData.number])
  have hright : IsData (.array 1 [.string "a", .string "b", .number (.ofNat 0)]) :=
    .array 1 (by simp [IsData.string, IsData.number])
  refine ⟨hleft, hright, fun h => ?_, ?_⟩
  · cases (text_eq_iff_sameData hleft hright).mp h with
    | array _ _ hitems => simpa using hitems.length_eq
  · refine (text_eq_iff_sameData (.array 0 (by simp [IsData.number]))
      (.array 1 (by simp [IsData.number]))).mpr (.array 0 1 (.cons (.number (.inl ?_)) .nil))
    decide +kernel

end Value

end Conform
