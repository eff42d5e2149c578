import Conform.Proofs.Digits
import Conform.Proofs.Nearest
import Conform.Value.Text

/-! The written form of numbers. It reads back as the number that it is nearest to, and it has an
exponent just where the number is too small or too large for positional notation. -/

namespace Conform

namespace DecimalLiteral

/-- The number on the line that a literal writes. -/
def value (l : DecimalLiteral) : ℚ := withSign l.negative l.decimal.value

/-- Plain digits before the point, and some digits after it if there is one. -/
structure IsTidy (l : DecimalLiteral) : Prop where
  whole : IsPlainDigits l.whole
  fraction : ∀ digits ∈ l.fraction, digits ≠ [] ∧ ∀ c ∈ digits, c.isDigit = true

/-- Positional notation. -/
structure IsPositional (l : DecimalLiteral) : Prop extends IsTidy l where
  exponent : l.exponent = none

/-- One digit other than zero before the point, and an exponent, which is written with its sign. -/
structure IsScientific (l : DecimalLiteral) : Prop extends IsTidy l where
  leading : ∃ c, l.whole = [c] ∧ c ≠ '0'
  exponent : ∃ e, l.exponent = some e

variable {l : DecimalLiteral}

theorem IsTidy.isSpelled (h : l.IsTidy) : l.IsSpelled :=
  ⟨h.whole.nonempty, h.whole.digits, fun digits hdigits => (h.fraction digits hdigits).2⟩

theorem not_mem_of_digits {c : Char} (hc : c.isDigit = false) {digits : List Char}
    (h : ∀ d ∈ digits, d.isDigit = true) : c ∉ digits := by
  intro hmem
  rw [h c hmem] at hc
  cases hc

/-- The letter of an exponent is nowhere else in a literal. -/
theorem mem_chars_iff (h : l.IsSpelled) : 'e' ∈ l.chars ↔ l.exponent ≠ none := by
  have hsign : 'e' ∉ signChars l.negative := by cases l.negative <;> simp [signChars]
  have hwhole : 'e' ∉ l.whole := not_mem_of_digits rfl h.whole
  have hfraction : 'e' ∉ fractionChars l.fraction := by
    cases hf : l.fraction with
    | none => simp [fractionChars]
    | some digits =>
      have := @not_mem_of_digits 'e' rfl digits (h.fraction digits hf)
      simp [fractionChars, this]
  simp only [chars, unsignedChars, List.mem_append, hsign, hwhole, hfraction, false_or]
  cases l.exponent <;> simp [exponentChars]

end DecimalLiteral

namespace Decimal

open DecimalLiteral

variable {negative : Bool} {d : Decimal}

theorem isPositional_positionalLiteral (h : d.digits ≠ 0) :
    (d.positionalLiteral negative).IsPositional := by
  have hspelled := @isSpelled_positionalLiteral negative d
  have hhead : d.chars.head? ≠ some '0' := head?_toDigits h
  have hleading := d.magnitudeExponent_eq
  refine ⟨⟨⟨hspelled.nonempty, hspelled.whole, fun hzero => ?_⟩,
    fun digits hdigits => ⟨?_, hspelled.fraction digits hdigits⟩⟩, ?_⟩
  · unfold positionalLiteral at hzero ⊢
    split_ifs at hzero ⊢
    · rw [List.head?_append_of_ne_nil _ d.chars_ne_nil] at hzero
      exact (hhead hzero).elim
    · rw [List.head?_take, if_neg (Nat.succ_ne_zero _)] at hzero
      exact (hhead hzero).elim
    · rfl
  · unfold positionalLiteral at hdigits
    split_ifs at hdigits with hexponent hmagnitude
    · cases hdigits
    · obtain rfl := Option.some.inj hdigits
      rw [← List.length_pos_iff, List.length_drop]
      omega
    · obtain rfl := Option.some.inj hdigits
      simp [d.chars_ne_nil]
  · unfold positionalLiteral
    split_ifs <;> rfl

theorem isScientific_scientificLiteral (h : d.digits ≠ 0) :
    (d.scientificLiteral negative).IsScientific := by
  have hspelled := @isSpelled_scientificLiteral negative d
  have hhead : d.chars.head? ≠ some '0' := head?_toDigits h
  obtain ⟨c, cs, hchars⟩ := List.exists_cons_of_ne_nil d.chars_ne_nil
  have hc : c ≠ '0' := by
    rintro rfl
    exact hhead (by rw [hchars, List.head?_cons])
  have hwhole : (d.scientificLiteral negative).whole = [c] := by
    rw [scientificLiteral, hchars]
    rfl
  refine ⟨⟨⟨hspelled.nonempty, hspelled.whole, fun hzero => ?_⟩,
    fun digits hdigits => ⟨?_, hspelled.fraction digits hdigits⟩⟩, ⟨c, hwhole, hc⟩, _, rfl⟩
  · rw [hwhole, List.head?_cons, Option.some.injEq] at hzero
    exact (hc hzero).elim
  · simp only [scientificLiteral] at hdigits
    split at hdigits
    next => cases hdigits
    next hfraction =>
      obtain rfl := Option.some.inj hdigits
      simpa using hfraction

end Decimal

namespace Magnitude

variable {negative : Bool} {m : Magnitude}

/-- The shortest decimal of a magnitude other than zero is not zero. -/
theorem digits_shortest_ne_zero (h : m.steps ≠ 0) (tie : Tie) : (m.shortest tie).digits ≠ 0 := by
  intro hdigits
  have hread := m.magnitude?_shortest tie
  rw [Decimal.magnitude?, if_pos (.inl hdigits), Option.some.injEq] at hread
  rw [← hread] at h
  exact h rfl

/-- Magnitudes that are too small or too large for positional notation. -/
def IsExtreme (m : Magnitude) : Prop :=
  (Number.finite false m).lt .positionalFloor = true ∨
    (Number.finite false m).lt .positionalCeiling = false

/-- The form is chosen by comparing with the two limits. -/
theorem isExtreme_iff :
    m.IsExtreme ↔ ((Number.finite false m).lt .positionalFloor ||
      !(Number.finite false m).lt .positionalCeiling) = true := by
  simp [IsExtreme]

/-- Extreme magnitudes are written with an exponent. -/
theorem isScientific_literal (h : m.steps ≠ 0) (hextreme : m.IsExtreme) :
    (m.literal negative).IsScientific := by
  rw [literal, if_pos (isExtreme_iff.mp hextreme)]
  exact Decimal.isScientific_scientificLiteral (digits_shortest_ne_zero h _)

theorem isPositional_literal (h : m.steps ≠ 0) (hextreme : ¬ m.IsExtreme) :
    (m.literal negative).IsPositional := by
  rw [literal, if_neg (mt isExtreme_iff.mpr hextreme)]
  exact Decimal.isPositional_positionalLiteral (digits_shortest_ne_zero h _)

end Magnitude

namespace Number

variable {n b : Number} {l : DecimalLiteral}

theorem toLower_of_isDigit {c : Char} (h : c.isDigit = true) : c.toLower = c := by
  have hdigits : ∀ d < 10, (Nat.digitChar d).toLower = Nat.digitChar d := by decide
  obtain ⟨d, hd, rfl⟩ := exists_digitChar h
  exact hdigits d hd

/-- What starts with a digit is no name. -/
theorem readUnsigned?_unsignedChars (h : l.IsSpelled) :
    readUnsigned? l.negative l.unsignedChars = some l.number := by
  obtain ⟨c, cs, hwhole⟩ := List.exists_cons_of_ne_nil h.nonempty
  have hc : c.isDigit = true := h.whole c (by simp [hwhole])
  have hname (name : String) (hhead : name.toList.head?.any Char.isDigit = false) :
      String.ofList (l.unsignedChars.map Char.toLower) ≠ name := by
    rintro rfl
    rw [DecimalLiteral.unsignedChars, hwhole] at hhead
    have hlower : c.toLower.isDigit = false := by simpa using hhead
    rw [toLower_of_isDigit hc, hc] at hlower
    cases hlower
  have hscan := DecimalLiteral.scanUnsigned_unsignedChars h DecimalLiteral.ends_nil
  rw [List.append_nil] at hscan
  have hdigits : l.hasDigits = true := by simp [DecimalLiteral.hasDigits, h.nonempty]
  rw [readUnsigned?]
  simp only
  rw [if_neg (hname _ rfl), if_neg (not_or.mpr ⟨hname _ rfl, hname _ rfl⟩), hscan]
  simp [hdigits]

theorem read?_of_chars (h : l.IsSpelled) {s : String} (hs : s.toList = l.chars) :
    read? s = some l.number := by
  rw [← readUnsigned?_unsignedChars h, read?, hs, DecimalLiteral.chars]
  cases hnegative : l.negative with
  | true => rfl
  | false =>
    obtain ⟨c, cs, hwhole⟩ := List.exists_cons_of_ne_nil h.nonempty
    have hc : c.isDigit = true := h.whole c (by simp [hwhole])
    simp only [DecimalLiteral.signChars, DecimalLiteral.unsignedChars, hwhole]
    split
    next rest hsign =>
      obtain rfl : c = '-' := (List.cons.inj hsign).1
      cases hc
    next rest hsign =>
      obtain rfl : c = '+' := (List.cons.inj hsign).1
      cases hc
    next => rfl

/-- Numbers at one place are nearest to the same, if ties go to both. -/
theorem IsNearest.of_place {x : ℚ} (h : b.IsNearest x) (hplace : n.place = b.place)
    (heven : n.isEven = b.isEven) : n.IsNearest x := by
  refine ⟨?_, fun hp hq => h.closest (hplace ▸ hp) hq, fun hp hq hne heq => ?_⟩
  · cases hb : b.place with
    | none =>
      have hnumber := h.isNaN_eq_false
      cases b with
      | nan => cases hnumber
      | infinity _ => cases hb
      | finite _ _ => cases hb
    | some p => exact isNaN_eq_false_of_place (hplace.trans hb)
  · rw [heven]
    exact h.even (hplace ▸ hp) hq hne heq

/-- A literal is read as the number nearest to its value. -/
theorem isNearest_number (l : DecimalLiteral) : l.number.IsNearest l.value :=
  isNearest_ofDecimal l.negative l.decimal

/-- The literal of both zeros. -/
def zeroLiteral : DecimalLiteral := ⟨false, ['0'], none, none⟩

theorem number_zeroLiteral : zeroLiteral.number = finite false .zero := by
  have hmagnitude : Decimal.magnitude? ⟨0, 0⟩ = some .zero := if_pos (.inl rfl)
  change ofDecimal false ⟨0, 0⟩ = _
  rw [ofDecimal, hmagnitude]

theorem isTidy_zeroLiteral : zeroLiteral.IsTidy :=
  ⟨⟨by simp [zeroLiteral], by simp [zeroLiteral], fun _ => rfl⟩, by simp [zeroLiteral]⟩

/-- A literal that a number is written as. -/
structure IsWrittenAs (n : Number) (l : DecimalLiteral) : Prop where
  chars : n.text.toList = l.chars
  tidy : l.IsTidy
  number : l.number = if n.isZero then finite false .zero else n

/-- Every finite number is written as a literal of the shape that its magnitude asks for. -/
theorem exists_isWrittenAs (negative : Bool) (m : Magnitude) :
    ∃ l, (finite negative m).IsWrittenAs l ∧
      (m.steps ≠ 0 → (m.IsExtreme → l.IsScientific) ∧ (¬ m.IsExtreme → l.IsPositional)) := by
  by_cases hm : m.steps = 0
  · refine ⟨zeroLiteral, ⟨?_, isTidy_zeroLiteral, ?_⟩, fun h => (h hm).elim⟩
    · rw [text_of_isZero ((isZero_finite negative).mpr hm)]
      rfl
    · rw [if_pos ((isZero_finite negative).mpr hm), number_zeroLiteral]
  · have hzero : (finite negative m).isZero = false := by
      rw [← Bool.not_eq_true, isZero_finite]
      exact hm
    have hliteral : (finite negative m).literal? = some (m.literal negative) := by
      rw [literal?, if_neg hm]
    obtain ⟨-, hchars, -⟩ := text_of_literal? hliteral
    refine ⟨m.literal negative, ⟨hchars, ?_, ?_⟩,
      fun _ => ⟨Magnitude.isScientific_literal hm, Magnitude.isPositional_literal hm⟩⟩
    · by_cases hextreme : m.IsExtreme
      · exact (Magnitude.isScientific_literal hm hextreme).toIsTidy
      · exact (Magnitude.isPositional_literal hm hextreme).toIsTidy
    · rw [Magnitude.number_literal, hzero]
      rfl

theorem IsWrittenAs.isNearest (h : n.IsWrittenAs l) : n.IsNearest l.value := by
  have hnearest := isNearest_number l
  rw [h.number] at hnearest
  by_cases hzero : n.isZero = true
  · rw [if_pos hzero] at hnearest
    cases n with
    | nan => cases hzero
    | infinity negative => cases negative <;> simp [isZero, position, signed] at hzero
    | finite negative m =>
      have hm : m.steps = 0 := (isZero_finite negative).mp hzero
      obtain rfl : m = .zero := Magnitude.steps_injective hm
      exact hnearest.of_place (by cases negative <;> rfl) rfl
  · rwa [if_neg hzero] at hnearest

/-- A written number is read back, save that the sign of zero is lost. -/
theorem read?_text (n : Number) :
    read? n.text = some (if n.isZero then finite false .zero else n) := by
  cases n with
  | nan => rfl
  | infinity negative => cases negative <;> rfl
  | finite negative m =>
    obtain ⟨l, hl, -⟩ := exists_isWrittenAs negative m
    rw [read?_of_chars hl.tidy.isSpelled hl.chars, hl.number]

/-- Two numbers are written alike just if they are equal. -/
theorem text_eq_iff (hn : n.isNaN = false) : n.text = b.text ↔ n.equals b = true := by
  constructor
  · intro h
    rcases position_eq_iff.mp (position_eq_of_text h) with hequals | ⟨hnan, -⟩
    · exact hequals
    · rw [hn] at hnan
      cases hnan
  · intro h
    exact text_eq_of_position (position_eq_of_equals h)

end Number

namespace Value

open Number

/-- The written form of a number reads back as the number, save that both zeros read as one. It is a
literal whose nearest number is the one that is written, and has an exponent just if the magnitude
is below `1e-6` or not below `1e21`. -/
theorem text_of_number_is_faithful (n : Number) :
    read? (number n).text = some (if n.isZero then finite false .zero else n) ∧
      (∀ b : Number, n.isNaN = false → b.isNaN = false →
        ((number n).text = (number b).text ↔ n.equals b = true)) ∧
      (∀ negative m, n = finite negative m → ∃ l : DecimalLiteral,
        (number n).text.toList = l.chars ∧ l.IsTidy ∧ n.IsNearest l.value ∧
          (m.steps ≠ 0 → ('e' ∈ (number n).text.toList ↔ m.IsExtreme) ∧
            (m.IsExtreme → l.IsScientific) ∧ (¬ m.IsExtreme → l.IsPositional))) ∧
      positionalFloor.IsNearest (10 ^ (-6 : ℤ)) ∧ positionalCeiling.IsNearest (10 ^ (21 : ℤ)) := by
  have htext (n : Number) : (number n).text = n.text := by rw [text]
  simp only [htext]
  refine ⟨read?_text n, fun b hn _ => text_eq_iff hn, ?_, ?_, ?_⟩
  · rintro negative m rfl
    obtain ⟨l, hl, hform⟩ := exists_isWrittenAs negative m
    refine ⟨l, hl.chars, hl.tidy, hl.isNearest, fun hm => ⟨?_, hform hm⟩⟩
    obtain ⟨hscientific, hpositional⟩ := hform hm
    rw [hl.chars, DecimalLiteral.mem_chars_iff hl.tidy.isSpelled]
    by_cases hextreme : m.IsExtreme
    · obtain ⟨e, he⟩ := (hscientific hextreme).exponent
      simp [hextreme, he]
    · simp [hextreme, (hpositional hextreme).exponent]
  · have h := isNearest_ofDecimal false ⟨1, -6⟩
    rwa [withSign, Decimal.value, if_neg (by decide), Nat.cast_one, one_mul] at h
  · have h := isNearest_ofDecimal false ⟨1, 21⟩
    rwa [withSign, Decimal.value, if_neg (by decide), Nat.cast_one, one_mul] at h

/-- The first magnitude past positional notation, `1e21`. -/
def sextillion : Magnitude := ⟨7629394531250000, 1091, by decide, by decide, .inr (by decide)⟩

/-- The first magnitude past positional notation is written with an exponent, and the zeros are
written as one. -/
theorem text_of_number_is_faithful_sextillion :
    sextillion.steps ≠ 0 ∧ sextillion.IsExtreme ∧
      (∃ l : DecimalLiteral, (number (finite true sextillion)).text.toList = l.chars ∧
        l.IsScientific ∧ (finite true sextillion).IsNearest l.value ∧
        'e' ∈ (number (finite true sextillion)).text.toList) ∧
      (number negativeZero).text = (number (finite false .zero)).text := by
  have hsteps : sextillion.steps ≠ 0 := by decide +kernel
  have hextreme : sextillion.IsExtreme := .inr (by decide +kernel)
  obtain ⟨-, -, hfinite, -, -⟩ := text_of_number_is_faithful (finite true sextillion)
  obtain ⟨l, hchars, -, hnearest, hform⟩ := hfinite true sextillion rfl
  obtain ⟨hletter, hscientific, -⟩ := hform hsteps
  obtain ⟨-, hequal, -, -, -⟩ := text_of_number_is_faithful negativeZero
  exact ⟨hsteps, hextreme,
    ⟨l, hchars, hscientific hextreme, hnearest, hletter.mpr hextreme⟩,
    (hequal (finite false .zero) rfl rfl).mpr rfl⟩

end Value

end Conform
