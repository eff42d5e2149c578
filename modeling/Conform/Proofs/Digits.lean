import Mathlib.Data.List.Basic
import Mathlib.Data.List.Induction

/-! Plain digits: a natural number is written with them in one way, with no zero in front of other
digits. -/

namespace Conform

/-- Decimal digits, at least one, and a zero in front only where it is alone. -/
structure IsPlainDigits (cs : List Char) : Prop where
  nonempty : cs ≠ []
  digits : ∀ c ∈ cs, c.isDigit = true
  zero : cs.head? = some '0' → cs = ['0']

variable {c : Char} {cs : List Char} {n : Nat}

/-- A digit is written by its value. -/
theorem exists_digitChar (h : c.isDigit = true) : ∃ d < 10, Nat.digitChar d = c := by
  obtain ⟨hlower, hupper⟩ := Char.isDigit_iff_toNat.mp h
  have hzero : '0'.toNat = 48 := rfl
  have hnine : '9'.toNat = 57 := rfl
  have hlt : c.toNat - 48 < 10 := by omega
  refine ⟨c.toNat - 48, hlt, Char.toNat_inj.mp ?_⟩
  rw [Nat.toNat_digitChar_of_lt_ten hlt]
  omega

/-- The first digit of a positive number is not zero. -/
theorem head?_toDigits (hn : n ≠ 0) : (Nat.toDigits 10 n).head? ≠ some '0' := by
  induction n using Nat.strongRecOn with
  | ind n ih =>
    rw [Nat.toDigits_eq_if (by decide)]
    split
    next hlt => simpa using hn
    next hge =>
      have hne : Nat.toDigits 10 (n / 10) ≠ [] := Nat.toDigits_ne_nil
      rw [List.head?_append_of_ne_nil _ hne]
      exact ih (n / 10) (by omega) (by omega)

theorem isPlainDigits_toDigits (n : Nat) : IsPlainDigits (Nat.toDigits 10 n) where
  nonempty := Nat.toDigits_ne_nil
  digits _ hc := Nat.isDigit_of_mem_toDigits (by decide) (by decide) hc
  zero hhead := by
    by_cases hn : n = 0
    · rw [hn, Nat.toDigits_zero]
    · exact (head?_toDigits hn hhead).elim

/-- The induction takes digits off the end, as division by ten does. -/
theorem toDigits_ofDigitChars (hne : cs ≠ []) (hdigits : ∀ c ∈ cs, c.isDigit = true)
    (hhead : cs.head? ≠ some '0') :
    Nat.ofDigitChars 10 cs 0 ≠ 0 ∧ Nat.toDigits 10 (Nat.ofDigitChars 10 cs 0) = cs := by
  induction cs using List.reverseRecOn with
  | nil => exact (hne rfl).elim
  | append_singleton cs c ih =>
    obtain ⟨d, hd, rfl⟩ := exists_digitChar (hdigits c (by simp))
    rw [Nat.ofDigitChars_append, Nat.ofDigitChars_cons_digitChar_of_lt_ten hd, Nat.ofDigitChars_nil]
    -- A last digit that is the only one is no zero; any other follows digits that stand for more
    -- than zero.
    by_cases hcs : cs = []
    · subst hcs
      have hd0 : d ≠ 0 := by simpa using hhead
      rw [Nat.ofDigitChars_nil, Nat.mul_zero, Nat.zero_add]
      exact ⟨hd0, Nat.toDigits_of_lt_base hd⟩
    · rw [List.head?_append_of_ne_nil _ hcs] at hhead
      obtain ⟨hv, hcs⟩ := ih hcs (fun c hc => hdigits c (by simp [hc])) hhead
      rw [← Nat.toDigits_append_toDigits (by decide) (by omega) hd, hcs,
        Nat.toDigits_of_lt_base hd]
      exact ⟨by omega, rfl⟩

/-- Plain digits are those that their value is written with. -/
theorem IsPlainDigits.toDigits (h : IsPlainDigits cs) :
    Nat.toDigits 10 (Nat.ofDigitChars 10 cs 0) = cs := by
  by_cases hhead : cs.head? = some '0'
  · rw [h.zero hhead]
    rfl
  · exact (toDigits_ofDigitChars h.nonempty h.digits hhead).2

/-- No two numbers are written with the same digits. -/
theorem repr_injective : Function.Injective Nat.repr := by
  intro a b hrepr
  have hdigits := congrArg String.toList hrepr
  rw [Nat.toList_repr, Nat.toList_repr] at hdigits
  have hvalues := congrArg (Nat.ofDigitChars 10 · 0) hdigits
  simpa using hvalues

end Conform
