import Conform.Proofs.Bounds

/-! Bounds on a length, and the rule that is made from them: which bounds make one, what is reported
of the others, and which bound a length is reported to break. -/

namespace Conform

/-- What is wrong with bounds on a length. Bounds in the wrong order are reported before a clash
with the exact length, and a clash with the lower bound before one with the upper. -/
inductive LengthFault (length min max : Option Nat) : ConfigError → Prop where
  | inverted {a b : Nat} : a ∈ min → b ∈ max → b < a →
      LengthFault length min max (.lengthBounds a b)
  | belowMin {n a : Nat} : (∀ a ∈ min, ∀ b ∈ max, a ≤ b) → n ∈ length → a ∈ min → n < a →
      LengthFault length min max (.lengthBelowMin n a)
  | aboveMax {n b : Nat} : (∀ a ∈ min, ∀ b ∈ max, a ≤ b) → n ∈ length → (∀ a ∈ min, a ≤ n) →
      b ∈ max → b < n → LengthFault length min max (.lengthAboveMax n b)

namespace LengthRule

variable {length min max : Option Nat} {rule : LengthRule} {n : Nat} {v : Violation}
  {e : ConfigError}

/-- The one length that is asked for: it is set, or both bounds lie at it. -/
def IsExact (length min max : Option Nat) (a : Nat) : Prop := a ∈ length ∨ a ∈ min ∧ a ∈ max

/-- The bound that a length is reported to break. -/
inductive Breaks (length min max : Option Nat) (n : Nat) : Violation → Prop where
  | exactly {a : Nat} : IsExact length min max a → n ≠ a →
      Breaks length min max n (.wrongLength a n)
  | below {a : Nat} : (∀ c, ¬ IsExact length min max c) → a ∈ min → n < a →
      Breaks length min max n (.tooShort a n)
  | above {b : Nat} : (∀ c, ¬ IsExact length min max c) → (∀ a ∈ min, a ≤ n) → b ∈ max → b < n →
      Breaks length min max n (.tooLong b n)

theorem ofBounds_eq_error_iff_withLength : ofBounds length min max = .error e ↔
    (∃ a ∈ min, ∃ b ∈ max, b < a ∧ .lengthBounds a b = e) ∨
      (∀ a ∈ min, ∀ b ∈ max, a ≤ b) ∧ ofBounds.withLength length min max = .error e := by
  cases min with
  | none => simp [ofBounds]
  | some a =>
    cases max with
    | none => simp [ofBounds]
    | some b =>
      rcases Nat.lt_or_ge b a with h | h
      · simp [ofBounds, h, Nat.not_le.mpr h]
      · simp [ofBounds, h, Nat.not_lt.mpr h]

theorem withLength_some_eq_error_iff : ofBounds.withLength (some n) min max = .error e ↔
    (∃ a ∈ min, n < a ∧ .lengthBelowMin n a = e) ∨
      (∀ a ∈ min, a ≤ n) ∧ ∃ b ∈ max, b < n ∧ .lengthAboveMax n b = e := by
  constructor
  · intro h
    rw [ofBounds.withLength] at h
    split at h
    · rename_i a hmin
      obtain ⟨ha, hlt⟩ := Option.filter_eq_some_iff.mp hmin
      exact .inl ⟨a, ha, of_decide_eq_true hlt, Except.error.inj h⟩
    · rename_i b hmin hmax
      obtain ⟨hb, hlt⟩ := Option.filter_eq_some_iff.mp hmax
      refine .inr ⟨fun a ha => ?_, b, hb, of_decide_eq_true hlt, Except.error.inj h⟩
      have := Option.filter_eq_none_iff.mp hmin a ha
      simpa using this
    · cases h
  · rintro (⟨a, ha, hlt, rfl⟩ | ⟨habove, b, hb, hlt, rfl⟩)
    · have hmin : min.filter (n < ·) = some a :=
        Option.filter_eq_some_iff.mpr ⟨ha, decide_eq_true hlt⟩
      rw [ofBounds.withLength, hmin]
    · have hmin : min.filter (n < ·) = none := by
        refine Option.filter_eq_none_iff.mpr fun a ha => ?_
        have := habove a ha
        simpa using this
      have hmax : max.filter (· < n) = some b :=
        Option.filter_eq_some_iff.mpr ⟨hb, decide_eq_true hlt⟩
      rw [ofBounds.withLength, hmin, hmax]

/-- Bounds are rejected for the first of their faults, and for nothing else. -/
theorem ofBounds_eq_error_iff : ofBounds length min max = .error e ↔
    LengthFault length min max e := by
  rw [ofBounds_eq_error_iff_withLength]
  constructor
  · rintro (⟨a, ha, b, hb, hlt, rfl⟩ | ⟨hordered, h⟩)
    · exact .inverted ha hb hlt
    · cases length with
      | none => cases h
      | some n =>
        rcases withLength_some_eq_error_iff.mp h with ⟨a, ha, hlt, rfl⟩ | ⟨habove, b, hb, hlt, rfl⟩
        · exact .belowMin hordered rfl ha hlt
        · exact .aboveMax hordered rfl habove hb hlt
  · intro h
    cases h with
    | @inverted a b ha hb hlt => exact .inl ⟨a, ha, b, hb, hlt, rfl⟩
    | @belowMin n a hordered hn ha hlt =>
      cases hn
      exact .inr ⟨hordered, withLength_some_eq_error_iff.mpr (.inl ⟨a, ha, hlt, rfl⟩)⟩
    | @aboveMax n b hordered hn habove hb hlt =>
      cases hn
      exact .inr ⟨hordered, withLength_some_eq_error_iff.mpr (.inr ⟨habove, b, hb, hlt, rfl⟩)⟩

/-- A rule that is made from bounds asks for an exact length, or else has the bounds as they are. -/
theorem ofBounds_cases (h : ofBounds length min max = .ok rule) :
    (∃ a, rule = exactly a ∧ ∀ c, IsExact length min max c ↔ c = a) ∨
      rule = between min max ∧ ∀ c, ¬ IsExact length min max c := by
  obtain ⟨-, h⟩ := ofBounds_eq_ok_iff.mp h
  cases length with
  | some a =>
    obtain ⟨hadmits, rfl⟩ := withLength_some_eq_ok_iff.mp h
    refine .inl ⟨a, rfl, fun c => ⟨?_, fun hc => .inl (hc ▸ rfl)⟩⟩
    rintro (hc | ⟨hmin, hmax⟩)
    · exact (Option.some.inj hc).symm
    · have habove := hadmits.above c hmin
      have hbelow := hadmits.below c hmax
      omega
  | none =>
    replace h : ofBetween min max = rule := Except.ok.inj h
    subst h
    unfold ofBetween
    split
    · rename_i a b
      split
      · rename_i hab
        exact .inl ⟨a, rfl, fun c => by simp [IsExact, ← hab, eq_comm]⟩
      · rename_i hab
        refine .inr ⟨rfl, fun c => ?_⟩
        rintro (hc | ⟨hmin, hmax⟩)
        · cases hc
        · cases hmin
          cases hmax
          exact hab rfl
    · rename_i hbounds
      refine .inr ⟨rfl, fun c => ?_⟩
      rintro (hc | ⟨hmin, hmax⟩)
      · cases hc
      · exact hbounds c c hmin hmax

/-- The lower bound is reported before the upper one. -/
theorem violation?_between_eq_some_iff : (between min max).violation? n = some v ↔
    (∃ a ∈ min, n < a ∧ .tooShort a n = v) ∨
      (∀ a ∈ min, a ≤ n) ∧ ∃ b ∈ max, b < n ∧ .tooLong b n = v := by
  rw [violation?, stage_eq_some_iff]
  simp [and_assoc]

/-- A rule reports the first of the bounds it was made of that a length breaks. -/
theorem violation?_eq_some_iff (h : ofBounds length min max = .ok rule) :
    rule.violation? n = some v ↔ Breaks length min max n v := by
  rcases ofBounds_cases h with ⟨a, rfl, hexact⟩ | ⟨rfl, hbetween⟩
  · constructor
    · intro hv
      rw [violation?] at hv
      split at hv
      · cases hv
      · rename_i hne
        cases hv
        exact .exactly ((hexact a).mpr rfl) hne
    · intro hv
      cases hv with
      | exactly hc hne =>
        obtain rfl := (hexact _).mp hc
        exact if_neg hne
      | below hnone => exact (hnone a ((hexact a).mpr rfl)).elim
      | above hnone => exact (hnone a ((hexact a).mpr rfl)).elim
  · rw [violation?_between_eq_some_iff]
    constructor
    · rintro (⟨a, ha, hlt, rfl⟩ | ⟨habove, b, hb, hlt, rfl⟩)
      · exact .below hbetween ha hlt
      · exact .above hbetween habove hb hlt
    · intro hv
      cases hv with
      | exactly hc => exact (hbetween _ hc).elim
      | below _ ha hlt => exact .inl ⟨_, ha, hlt, rfl⟩
      | above _ habove hb hlt => exact .inr ⟨habove, _, hb, hlt, rfl⟩

/-- Bounds that admit a length admit one that is as small as they are. -/
theorem Admits.exists_le {limit : Nat} (h : Admits length min max n)
    (hlength : ∀ a ∈ length, a ≤ limit) (hmin : ∀ a ∈ min, a ≤ limit) :
    ∃ m ≤ limit, Admits length min max m := by
  cases length with
  | some a =>
    obtain rfl := h.exactly a rfl
    exact ⟨n, hlength n rfl, h⟩
  | none =>
    cases min with
    | none => exact ⟨0, Nat.zero_le limit, by simp, by simp, by simp⟩
    | some a =>
      refine ⟨a, hmin a rfl, by simp, by simp, fun b hb => ?_⟩
      exact Nat.le_trans (h.above a rfl) (h.below b hb)

/-- Bounds make a rule just if a length keeps all of them, and the rule passes the lengths that do,
although it may hold fewer bounds. Lengths and bounds go up to any limit. -/
theorem rule_keeps_bounds (length min max : Option Nat) (limit : Nat)
    (hlength : ∀ a ∈ length, a ≤ limit) (hmin : ∀ a ∈ min, a ≤ limit) :
    ((∃ rule, (compile length min max).result = .ok rule) ↔
      ∃ n ≤ limit, Admits length min max n) ∧
    (∀ e, (compile length min max).result = .error e ↔ LengthFault length min max e) ∧
    ∀ rule, (compile length min max).result = .ok rule → ∀ n,
      (rule.violation? n = none ↔ Admits length min max n) ∧
      ∀ v, rule.violation? n = some v ↔ Breaks length min max n v := by
  simp only [result_compile]
  refine ⟨?_, fun e => ofBounds_eq_error_iff, fun rule h n => ?_⟩
  · rw [exists_ofBounds_iff]
    constructor
    · rintro ⟨n, hn⟩
      exact hn.exists_le hlength hmin
    · rintro ⟨n, -, hn⟩
      exact ⟨n, hn⟩
  · exact ⟨violation?_eq_none_iff h, fun v => violation?_eq_some_iff h⟩

/-- Three and three are an exact length; a length of two breaks that and no lower bound. -/
theorem rule_keeps_bounds_three :
    (∀ a ∈ (none : Option Nat), a ≤ 1 <<< 64 - 1) ∧ (∀ a ∈ some 3, a ≤ 1 <<< 64 - 1) ∧
      (compile none (some 3) (some 3)).result = .ok (exactly 3) ∧
      (∃ n ≤ 1 <<< 64 - 1, Admits none (some 3) (some 3) n) ∧
      Breaks none (some 3) (some 3) 2 (.wrongLength 3 2) := by
  have hlength : ∀ a ∈ (none : Option Nat), a ≤ 1 <<< 64 - 1 := by simp
  have hmin : ∀ a ∈ some 3, a ≤ 1 <<< 64 - 1 := by simp
  have hrule : (compile none (some 3) (some 3)).result = .ok (exactly 3) := rfl
  obtain ⟨hexists, -, hkeeps⟩ :=
    rule_keeps_bounds none (some 3) (some 3) (1 <<< 64 - 1) hlength hmin
  exact ⟨hlength, hmin, hrule, hexists.mp ⟨_, hrule⟩, ((hkeeps _ hrule 2).2 _).mp rfl⟩

end LengthRule

end Conform
