import Conform.Number.Reading
import Conform.Proofs.DecimalRounding

/-! The written form of a finite number is a literal. Reading it back takes just the literal off the
front of a text, and gives a number that lies at the same place. -/

namespace Conform

/-- Digits at the front of a text are taken off together. -/
theorem span_digits {digits rest : List Char} (hdigits : ∀ c ∈ digits, c.isDigit = true)
    (hrest : ∀ c ∈ rest.head?, c.isDigit = false) :
    (digits ++ rest).takeWhile Char.isDigit = digits ∧
      (digits ++ rest).dropWhile Char.isDigit = rest := by
  rw [List.takeWhile_append_of_pos hdigits, List.dropWhile_append_of_pos hdigits]
  cases rest with
  | nil => simp
  | cons c rest => simp [hrest c rfl]

theorem isDigit_of_mem_toDigits {n : Nat} {c : Char} (h : c ∈ Nat.toDigits 10 n) :
    c.isDigit = true :=
  Nat.isDigit_of_mem_toDigits (by decide) (by decide) h

theorem Number.signed_natAbs (e : Int) : Number.signed (decide (e < 0)) e.natAbs = e := by
  rcases Int.lt_or_le e 0 with he | he
  · rw [Number.signed, if_pos (decide_eq_true he)]
    omega
  · rw [Number.signed, if_neg (by simpa using he)]
    omega

namespace DecimalLiteral

/-- A literal of digits, with at least one of them before the point. -/
structure IsSpelled (l : DecimalLiteral) : Prop where
  nonempty : l.whole ≠ []
  whole : ∀ c ∈ l.whole, c.isDigit = true
  fraction : ∀ digits ∈ l.fraction, ∀ c ∈ digits, c.isDigit = true

def fractionChars : Option (List Char) → List Char
  | none => []
  | some digits => '.' :: digits

def exponentChars : Option Int → List Char
  | none => []
  | some e => 'e' :: (if e < 0 then '-' else '+') :: Nat.toDigits 10 e.natAbs

def unsignedChars (l : DecimalLiteral) : List Char :=
  l.whole ++ (fractionChars l.fraction ++ exponentChars l.exponent)

def signChars (negative : Bool) : List Char := if negative then ['-'] else []

/-- The literal as it is written. -/
def chars (l : DecimalLiteral) : List Char := signChars l.negative ++ l.unsignedChars

/-- Nothing that a literal could go on with. -/
def Ends (rest : List Char) : Prop :=
  ∀ c ∈ rest.head?, c.isDigit = false ∧ c ≠ '.' ∧ c ≠ 'e' ∧ c ≠ 'E'

variable {l : DecimalLiteral} {rest : List Char}

theorem ends_nil : Ends [] := by simp [Ends]

theorem Ends.isDigit (h : Ends rest) : ∀ c ∈ rest.head?, c.isDigit = false :=
  fun c hc => (h c hc).1

theorem scanExponent_chars (exponent : Option Int) (hrest : Ends rest) :
    scanExponent (exponentChars exponent ++ rest) = (exponent, rest) := by
  cases exponent with
  | none =>
    cases rest with
    | nil => rfl
    | cons c rest =>
      obtain ⟨-, -, he, hE⟩ := hrest c rfl
      simp [exponentChars, scanExponent, he, hE]
  | some e =>
    obtain ⟨htake, hdrop⟩ :=
      span_digits (fun _ => isDigit_of_mem_toDigits (n := e.natAbs)) hrest.isDigit
    have hvalue : digitsValue (Nat.toDigits 10 e.natAbs) = e.natAbs := Nat.ofDigitChars_ten_toDigits
    have hsigned := Number.signed_natAbs e
    by_cases he : e < 0
    · simp only [he, decide_true] at hsigned
      simp [exponentChars, scanExponent, he, htake, hdrop, hvalue, Nat.toDigits_ne_nil, hsigned]
    · simp only [he, decide_false] at hsigned
      simp [exponentChars, scanExponent, he, htake, hdrop, hvalue, Nat.toDigits_ne_nil, hsigned]

theorem head?_exponentChars (exponent : Option Int) (hrest : Ends rest) :
    ∀ c ∈ (exponentChars exponent ++ rest).head?, c.isDigit = false ∧ c ≠ '.' := by
  intro c hc
  cases exponent with
  | none => exact ⟨(hrest c hc).1, (hrest c hc).2.1⟩
  | some e =>
    obtain rfl : 'e' = c := Option.some.inj hc
    decide

/-- A fraction is read to its end, which is no digit and no second point. -/
theorem scanFraction_chars {fraction : Option (List Char)}
    (hfraction : ∀ digits ∈ fraction, ∀ c ∈ digits, c.isDigit = true)
    (hrest : ∀ c ∈ rest.head?, c.isDigit = false ∧ c ≠ '.') :
    scanFraction (fractionChars fraction ++ rest) = (fraction, rest) := by
  cases fraction with
  | none =>
    cases rest with
    | nil => rfl
    | cons c rest => simp [fractionChars, scanFraction, (hrest c rfl).2]
  | some digits =>
    obtain ⟨htake, hdrop⟩ := span_digits (hfraction digits rfl) fun c hc => (hrest c hc).1
    simp [fractionChars, scanFraction, htake, hdrop]

theorem scanUnsigned_unsignedChars (h : l.IsSpelled) (hrest : Ends rest) :
    scanUnsigned l.negative (l.unsignedChars ++ rest) = (l, rest) := by
  have hexponent := head?_exponentChars l.exponent hrest
  have hhead : ∀ c ∈ (fractionChars l.fraction ++ (exponentChars l.exponent ++ rest)).head?,
      c.isDigit = false := by
    cases l.fraction with
    | none => exact fun c hc => (hexponent c hc).1
    | some digits =>
      intro c hc
      obtain rfl : '.' = c := Option.some.inj hc
      decide
  obtain ⟨htake, hdrop⟩ := span_digits h.whole hhead
  rw [unsignedChars, List.append_assoc, List.append_assoc, scanUnsigned, htake, hdrop,
    scanFraction_chars h.fraction hexponent]
  simp only [scanExponent_chars l.exponent hrest]

/-- A literal is all that is read of a text that it is at the front of. -/
theorem scan_chars (h : l.IsSpelled) (hrest : Ends rest) : scan (l.chars ++ rest) = (l, rest) := by
  rw [← scanUnsigned_unsignedChars h hrest, chars]
  cases hnegative : l.negative with
  | true => rfl
  | false =>
    obtain ⟨c, digits, hwhole⟩ := List.exists_cons_of_ne_nil h.nonempty
    have hc : c ≠ '-' := by
      rintro rfl
      exact absurd (h.whole '-' (by simp [hwhole])) (by decide)
    simp only [signChars, unsignedChars, hwhole, List.cons_append]
    rw [scan]
    · rfl
    · rintro rest' ⟨⟩
      exact hc rfl

end DecimalLiteral

namespace Decimal

open DecimalLiteral

/-- The digits of a decimal. -/
def chars (d : Decimal) : List Char := Nat.toDigits 10 d.digits

def positionalLiteral (negative : Bool) (d : Decimal) : DecimalLiteral :=
  if 0 ≤ d.exponent then
    ⟨negative, d.chars ++ List.replicate d.exponent.toNat '0', none, none⟩
  else if 0 ≤ d.magnitudeExponent then
    ⟨negative, d.chars.take (d.magnitudeExponent.toNat + 1),
      some (d.chars.drop (d.magnitudeExponent.toNat + 1)), none⟩
  else
    ⟨negative, ['0'], some (List.replicate (-d.magnitudeExponent - 1).toNat '0' ++ d.chars), none⟩

def scientificLiteral (negative : Bool) (d : Decimal) : DecimalLiteral :=
  let fraction := d.chars.drop 1
  ⟨negative, d.chars.take 1, if fraction.isEmpty then none else some fraction,
    some d.magnitudeExponent⟩

variable {negative : Bool} {d : Decimal}

theorem toList_digitText (d : Decimal) : d.digitText.toList = d.chars := Nat.toList_repr

theorem chars_ne_nil (d : Decimal) : d.chars ≠ [] := Nat.toDigits_ne_nil

theorem isDigit_of_mem_chars {c : Char} (h : c ∈ d.chars) : c.isDigit = true :=
  isDigit_of_mem_toDigits h

theorem digitsValue_chars (d : Decimal) : digitsValue d.chars = d.digits :=
  Nat.ofDigitChars_ten_toDigits

theorem magnitudeExponent_eq (d : Decimal) :
    d.magnitudeExponent = d.exponent + d.chars.length - 1 := by
  rw [magnitudeExponent, ← String.length_toList, toList_digitText]

theorem toList_zeros (n : Nat) : (zeros n).toList = List.replicate n '0' := by
  induction n with
  | zero => rfl
  | succ n ih =>
    change ((zeros n).push '0').toList = _
    rw [String.toList_push, ih, List.replicate_succ']

/-- The positional form of a decimal is the text of a literal. -/
theorem toList_positional (negative : Bool) (d : Decimal) :
    d.positional.toList = (d.positionalLiteral negative).unsignedChars := by
  simp only [positional, positionalLiteral]
  split
  · simp [unsignedChars, fractionChars, exponentChars, toList_digitText, toList_zeros]
  · split
    · simp [unsignedChars, fractionChars, exponentChars, splitDigits, toList_digitText]
    · simp [unsignedChars, fractionChars, exponentChars, toList_digitText, toList_zeros]

theorem toList_scientific (negative : Bool) (d : Decimal) :
    d.scientific.toList = (d.scientificLiteral negative).unsignedChars := by
  have hexponent : (if d.magnitudeExponent < 0 then "-" else "+").toList =
      [if d.magnitudeExponent < 0 then '-' else '+'] := by
    split <;> rfl
  simp only [scientific, scientificLiteral, splitDigits, toList_digitText]
  by_cases hfraction : d.chars.tail = []
  · simp [unsignedChars, fractionChars, exponentChars, hfraction, hexponent]
  · simp [unsignedChars, fractionChars, exponentChars, hfraction, hexponent]

theorem isSpelled_positionalLiteral : (d.positionalLiteral negative).IsSpelled := by
  unfold positionalLiteral
  split
  · refine ⟨by simp [d.chars_ne_nil], fun c hc => ?_, by simp⟩
    rcases List.mem_append.mp hc with hc | hc
    · exact isDigit_of_mem_chars hc
    · rw [List.eq_of_mem_replicate hc]
      rfl
  · split
    · refine ⟨by simp [d.chars_ne_nil], fun c hc => ?_, ?_⟩
      · exact isDigit_of_mem_chars (List.mem_of_mem_take hc)
      · rintro digits ⟨⟩ c hc
        exact isDigit_of_mem_chars (List.mem_of_mem_drop hc)
    · refine ⟨by simp, fun c hc => ?_, ?_⟩
      · rw [List.mem_singleton.mp hc]
        rfl
      · rintro digits ⟨⟩ c hc
        rcases List.mem_append.mp hc with hc | hc
        · rw [List.eq_of_mem_replicate hc]
          rfl
        · exact isDigit_of_mem_chars hc

theorem isSpelled_scientificLiteral : (d.scientificLiteral negative).IsSpelled := by
  refine ⟨by simp [scientificLiteral, d.chars_ne_nil], fun c hc => ?_,
    fun digits hdigits c hc => ?_⟩
  · exact isDigit_of_mem_chars (List.mem_of_mem_take hc)
  · simp only [scientificLiteral] at hdigits
    split at hdigits
    · cases hdigits
    · cases hdigits
      exact isDigit_of_mem_chars (List.mem_of_mem_drop hc)

/-- Only an exponent that is not negative goes into the digits. -/
theorem decimal_positionalLiteral (h : d.exponent < 0) :
    (d.positionalLiteral negative).decimal = d := by
  have hleading := d.magnitudeExponent_eq
  unfold positionalLiteral
  rw [if_neg (Int.not_le.mpr h)]
  split
  · simp only [DecimalLiteral.decimal, Option.getD_some, Option.getD_none, List.take_append_drop,
      digitsValue_chars, List.length_drop]
    congr 1
    omega
  · have hvalue : digitsValue ('0' :: (List.replicate (-d.magnitudeExponent - 1).toNat '0' ++
        d.chars)) = d.digits := by
      rw [← d.digitsValue_chars, ← List.cons_append, ← List.replicate_succ, digitsValue,
        Nat.ofDigitChars_append, Nat.ofDigitChars_replicate_zero, Nat.mul_zero, digitsValue]
    simp only [DecimalLiteral.decimal, Option.getD_some, Option.getD_none, List.singleton_append,
      hvalue, List.length_append, List.length_replicate]
    congr 1
    omega

theorem decimal_scientificLiteral : (d.scientificLiteral negative).decimal = d := by
  have hleading := d.magnitudeExponent_eq
  have hpos : 0 < d.chars.length := List.length_pos_iff.mpr d.chars_ne_nil
  have hfraction : (if (d.chars.drop 1).isEmpty then none else some (d.chars.drop 1)).getD [] =
      d.chars.drop 1 := by
    split
    next hempty => exact (List.isEmpty_iff.mp hempty).symm
    next => rfl
  simp only [DecimalLiteral.decimal, scientificLiteral, hfraction, List.take_append_drop,
    digitsValue_chars, Option.getD_some, List.length_drop]
  congr 1
  omega

theorem negative_positionalLiteral : (d.positionalLiteral negative).negative = negative := by
  unfold positionalLiteral
  split
  · rfl
  · split <;> rfl

theorem number_positionalLiteral :
    (d.positionalLiteral negative).number = .ofDecimal negative d := by
  rw [DecimalLiteral.number, negative_positionalLiteral]
  rcases Int.lt_or_le d.exponent 0 with hexponent | hexponent
  · rw [decimal_positionalLiteral hexponent]
  · have hdecimal : (d.positionalLiteral negative).decimal =
        ⟨d.digits * Nat.pow 10 d.exponent.toNat, 0⟩ := by
      rw [positionalLiteral, if_pos hexponent, DecimalLiteral.decimal]
      simp only [Option.getD_none, List.append_nil, digitsValue, Nat.ofDigitChars_append,
        Nat.ofDigitChars_replicate_zero]
      rw [← digitsValue, digitsValue_chars, Nat.mul_comm]
      rfl
    have hmagnitude := magnitude?_shift d.digits d.exponent.toNat
    rw [Int.toNat_of_nonneg hexponent] at hmagnitude
    rw [Number.ofDecimal, hdecimal, hmagnitude]
    rfl

theorem number_scientificLiteral :
    (d.scientificLiteral negative).number = .ofDecimal negative d := by
  rw [DecimalLiteral.number, decimal_scientificLiteral]
  rfl

end Decimal

namespace Magnitude

/-- The literal that a magnitude other than zero is written as. -/
def literal (negative : Bool) (m : Magnitude) : DecimalLiteral :=
  if (Number.finite false m).lt Number.positionalFloor ||
      !(Number.finite false m).lt Number.positionalCeiling then
    (m.shortest .up).scientificLiteral negative
  else (m.shortest .up).positionalLiteral negative

variable {negative : Bool} {m : Magnitude}

theorem isSpelled_literal : (m.literal negative).IsSpelled := by
  unfold literal
  split
  · exact Decimal.isSpelled_scientificLiteral
  · exact Decimal.isSpelled_positionalLiteral

theorem negative_literal : (m.literal negative).negative = negative := by
  unfold literal
  split
  · rfl
  · exact Decimal.negative_positionalLiteral

/-- The text of a magnitude is that of a literal, in one form or the other. -/
theorem toList_magnitudeText (negative : Bool) (m : Magnitude) :
    (Number.magnitudeText m).toList = (m.literal negative).unsignedChars := by
  simp only [Number.magnitudeText, literal]
  split
  · exact Decimal.toList_scientific negative _
  · exact Decimal.toList_positional negative _

/-- The literal of a magnitude is read as the magnitude, with its sign. -/
theorem number_literal : (m.literal negative).number = .finite negative m := by
  have hnumber : Number.ofDecimal negative (m.shortest .up) = .finite negative m := by
    rw [Number.ofDecimal, magnitude?_shortest]
  unfold literal
  split
  · rw [Decimal.number_scientificLiteral, hnumber]
  · rw [Decimal.number_positionalLiteral, hnumber]

end Magnitude

namespace Number

open DecimalLiteral

/-- The literal that a finite number is written as. -/
def literal? : Number → Option DecimalLiteral
  | finite negative m =>
    some (if m.steps = 0 then ⟨false, ['0'], none, none⟩ else m.literal negative)
  | _ => none

variable {n a b : Number} {l : DecimalLiteral} {r s : List Char}

theorem position_zeroLiteral :
    (DecimalLiteral.mk false ['0'] none none).number.position = some 0 := by
  have hmagnitude : Decimal.magnitude? ⟨0, 0⟩ = some .zero := if_pos (.inl rfl)
  change (ofDecimal false ⟨0, 0⟩).position = some 0
  rw [ofDecimal, hmagnitude]
  rfl

/-- Numbers that have a literal are written as it, and read back at the same place. -/
theorem text_of_literal? (h : n.literal? = some l) :
    l.IsSpelled ∧ n.text.toList = l.chars ∧ l.number.position = n.position := by
  cases n with
  | nan => cases h
  | infinity negative => cases h
  | finite negative m =>
    obtain rfl := Option.some.inj h
    rw [text]
    split
    next hm =>
      refine ⟨⟨by simp, by simp, by simp⟩, rfl, ?_⟩
      rw [position_zeroLiteral, position, hm]
      cases negative <;> rfl
    next hm =>
      refine ⟨Magnitude.isSpelled_literal, ?_, by rw [Magnitude.number_literal]⟩
      rw [String.toList_append, Magnitude.toList_magnitudeText negative, chars,
        Magnitude.negative_literal]
      cases negative <;> rfl

/-- A name instead of digits. -/
theorem whole_scan_of_literal?_eq_none (h : n.literal? = none) (r : List Char) :
    (scan (n.text.toList ++ r)).1.whole = [] := by
  cases n with
  | nan => rfl
  | infinity negative => cases negative <;> rfl
  | finite negative m => cases h

/-- The names of NaN and of both infinities are told apart at the front of any text. -/
theorem eq_of_append_names (ha : a.literal? = none) (hb : b.literal? = none)
    (h : a.text.toList ++ r = b.text.toList ++ s) : a = b ∧ r = s := by
  cases a with
  | nan =>
    cases b with
    | nan => exact ⟨rfl, List.append_cancel_left h⟩
    | infinity t => cases t <;> simp [text, signText] at h
    | finite t m => cases hb
  | infinity t =>
    cases b with
    | nan => cases t <;> simp [text, signText] at h
    | infinity t' => cases t <;> cases t' <;> simp_all [text, signText]
    | finite t' m => cases hb
  | finite t m => cases ha

/-- Two texts that start with the written forms of numbers are the same only if the numbers lie at
one place. -/
theorem position_eq_of_append (hr : Ends r) (hs : Ends s)
    (h : a.text.toList ++ r = b.text.toList ++ s) : a.position = b.position ∧ r = s := by
  cases ha : a.literal? with
  | none =>
    have hwhole := whole_scan_of_literal?_eq_none ha r
    cases hb : b.literal? with
    | none =>
      obtain ⟨rfl, hrest⟩ := eq_of_append_names ha hb h
      exact ⟨rfl, hrest⟩
    | some l =>
      obtain ⟨hl, htext, -⟩ := text_of_literal? hb
      rw [h, htext, scan_chars hl hs] at hwhole
      exact absurd hwhole hl.nonempty
  | some l =>
    obtain ⟨hl, hltext, hlposition⟩ := text_of_literal? ha
    have hscan := scan_chars hl hr
    cases hb : b.literal? with
    | none =>
      have hwhole := whole_scan_of_literal?_eq_none hb s
      rw [← h, hltext, hscan] at hwhole
      exact absurd hwhole hl.nonempty
    | some l' =>
      obtain ⟨hl', hltext', hlposition'⟩ := text_of_literal? hb
      rw [← hltext, h, hltext', scan_chars hl' hs] at hscan
      obtain ⟨rfl, rfl⟩ := Prod.mk.inj hscan
      exact ⟨hlposition.symm.trans hlposition', rfl⟩

/-- Numbers that are written alike lie at one place. -/
theorem position_eq_of_text (h : a.text = b.text) : a.position = b.position :=
  (position_eq_of_append ends_nil ends_nil (by rw [h])).1

/-- Numbers with one text lie at one place, where neither is less than the other. -/
theorem text_ne_of_lt (h : a.lt b = true) : a.text ≠ b.text := by
  intro htext
  obtain ⟨p, q, hp, hq, hpq⟩ := lt_iff.mp h
  have hposition := position_eq_of_text htext
  rw [hp, hq, Option.some.injEq] at hposition
  omega

end Number

end Conform
