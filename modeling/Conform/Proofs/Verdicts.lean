import Conform.Proofs.Looser

/-! Verdicts: which descriptions there is a checker for, and which values it accepts. Both are told
of a combination by what is true of its parts, whatever their order. -/

namespace Conform

namespace Outcome

theorem passed_every_map {α : Type} {f : α → Outcome} {items : List α} :
    (every (items.map f)).passed = true ↔ ∀ x ∈ items, (f x).passed = true :=
  passed_every.trans List.forall_mem_map

theorem passed_either_map {α : Type} {f : α → Outcome} {items : List α} :
    (either (items.map f)).passed = true ↔ ∃ x ∈ items, (f x).passed = true := by
  simp [either]

theorem passed_ofArray {length : LengthRule} {o : Value → Outcome} {v : Value} :
    (ofArray length (some o) v).passed = true ↔
      ∃ items ∈ v.items?, length.violation? items.length = none ∧
        ∀ w ∈ items, (o w).passed = true := by
  cases v with
  | array id items =>
    simp only [ofArray, Value.items?, Option.mem_some]
    cases hlength : length.violation? items.length <;> simp [silent, passed_every_map, hlength]
  | _ => simp [ofArray, silent, Value.items?]

theorem passed_ofObject {options : ObjectOptions (Value → Outcome)} {v : Value} :
    (ofObject options v).passed = true ↔
      (v.isNull = true ∧ options.optional = true) ∨
        v.isObject = true ∧ ∀ p ∈ options.properties, (p.2 (v.property p.1)).passed = true := by
  unfold ofObject
  cases v <;> simp [Value.isObject, Value.isNull, Value.datatype, silent, passed_every_map]

end Outcome

namespace Checker

/-- There is a checker of the description. -/
def Builds (c : Checker) : Prop := ∃ o, c.meaning = .ok o

/-- The outcomes of the checker, or failures if there is none. -/
def outcome (c : Checker) : Value → Outcome := .orFailing c.meaning

/-- There is a checker of the description, and it passes the value. -/
def Accepts (c : Checker) (v : Value) : Prop := (c.outcome v).passed = true

variable {c c' d : Checker} {cs : List Checker} {properties : List (String × Checker)} {v : Value}

/-- A description that can be built means what its checker comes to. -/
theorem meaning_eq_ok_iff {o : Value → Outcome} :
    c.meaning = .ok o ↔ c.Builds ∧ c.outcome = o := by
  rw [Builds, outcome]
  cases c.meaning <;> simp [Outcome.orFailing]

theorem accepts_of_meaning {o : Value → Outcome} (h : c.meaning = .ok o) :
    c.Accepts v ↔ (o v).passed = true := by
  rw [Accepts, (meaning_eq_ok_iff.mp h).2]

theorem Accepts.builds (h : c.Accepts v) : c.Builds := by
  cases hc : c.meaning with
  | error e =>
    rw [Accepts, outcome, hc] at h
    cases h
  | ok o => exact ⟨o, hc⟩

theorem meanings_eq_ok_iff {os : List (Value → Outcome)} :
    meanings cs = .ok os ↔ (∀ c ∈ cs, c.Builds) ∧ cs.map outcome = os := by
  induction cs generalizing os with
  | nil => simp [meanings, pure, Except.pure]
  | cons c rest ih =>
    simp only [meanings_cons_iff, ih, meaning_eq_ok_iff, List.forall_mem_cons, List.map_cons]
    constructor
    · rintro ⟨o, after, ⟨hc, rfl⟩, ⟨hrest, rfl⟩, rfl⟩
      exact ⟨⟨hc, hrest⟩, rfl⟩
    · rintro ⟨⟨hc, hrest⟩, rfl⟩
      exact ⟨_, _, ⟨hc, rfl⟩, ⟨hrest, rfl⟩, rfl⟩

theorem meaningEntries_eq_ok_iff {entries : List (String × (Value → Outcome))} :
    meaningEntries properties = .ok entries ↔
      (∀ p ∈ properties, p.2.Builds) ∧ (properties.map fun p => (p.1, p.2.outcome)) = entries := by
  induction properties generalizing entries with
  | nil => simp [meaningEntries, pure, Except.pure]
  | cons p rest ih =>
    obtain ⟨name, c⟩ := p
    simp only [meaningEntries_cons_iff, ih, meaning_eq_ok_iff, List.forall_mem_cons, List.map_cons]
    constructor
    · rintro ⟨o, after, ⟨hc, rfl⟩, ⟨hrest, rfl⟩, rfl⟩
      exact ⟨⟨hc, hrest⟩, rfl⟩
    · rintro ⟨⟨hc, hrest⟩, rfl⟩
      exact ⟨_, _, ⟨hc, rfl⟩, ⟨hrest, rfl⟩, rfl⟩

section Made

variable {α : Type} {made : Except ConfigError α} {f : α → Value → Outcome} {P : Prop} {a : α}

/-- What is made of parts is built if they are. -/
theorem builds_made (hd : d.meaning = do return f (← made)) (h : ∀ b, made = .ok b ↔ P ∧ a = b) :
    d.Builds ↔ P := by
  rw [Builds, hd]
  simp only [bind_eq_ok_iff, h]
  constructor
  · rintro ⟨_, _, ⟨hp, -⟩, -⟩
    exact hp
  · intro hp
    exact ⟨_, a, ⟨hp, rfl⟩, rfl⟩

theorem accepts_made (hd : d.meaning = do return f (← made)) (h : ∀ b, made = .ok b ↔ P ∧ a = b) :
    d.Accepts v ↔ P ∧ (f a v).passed = true := by
  have hmeaning (hp : P) : d.meaning = .ok (f a) :=
    hd.trans (bind_eq_ok_iff.mpr ⟨a, (h a).mpr ⟨hp, rfl⟩, rfl⟩)
  constructor
  · intro ha
    have hp := (builds_made hd h).mp ha.builds
    exact ⟨hp, (accepts_of_meaning (hmeaning hp)).mp ha⟩
  · rintro ⟨hp, hpassed⟩
    exact (accepts_of_meaning (hmeaning hp)).mpr hpassed

end Made

theorem builds_all : (all cs).Builds ↔ ∀ c ∈ cs, c.Builds :=
  builds_made rfl fun _ => meanings_eq_ok_iff

theorem builds_any : (any cs).Builds ↔ ∀ c ∈ cs, c.Builds :=
  builds_made rfl fun _ => meanings_eq_ok_iff

/-- A conjunction accepts what all of its members do. -/
theorem accepts_all : (all cs).Accepts v ↔ ∀ c ∈ cs, c.Accepts v := by
  rw [accepts_made (d := all cs) rfl fun _ => meanings_eq_ok_iff, List.map_map,
    Outcome.passed_every_map]
  exact and_iff_right_of_imp fun h c hc => Accepts.builds (h c hc)

/-- A choice accepts what one of its members does, if all of them can be built. -/
theorem accepts_any : (any cs).Accepts v ↔ (any cs).Builds ∧ ∃ c ∈ cs, c.Accepts v := by
  rw [accepts_made (d := any cs) rfl fun _ => meanings_eq_ok_iff, List.map_map,
    Outcome.passed_either_map, builds_any]
  rfl

theorem builds_optional : (optional c).Builds ↔ c.Builds :=
  builds_made rfl fun _ => meaning_eq_ok_iff

theorem accepts_optional :
    (optional c).Accepts v ↔ c.Builds ∧ (v.isNullish = true ∨ c.Accepts v) := by
  rw [accepts_made (d := optional c) rfl fun _ => meaning_eq_ok_iff, Outcome.ofOptional]
  cases v.isNullish <;> simp [Accepts, Outcome.silent]

theorem builds_arrayOf : (arrayOf c).Builds ↔ c.Builds :=
  builds_made rfl fun _ => meaning_eq_ok_iff

theorem accepts_arrayOf :
    (arrayOf c).Accepts v ↔ c.Builds ∧ ∃ items ∈ v.items?, ∀ w ∈ items, c.Accepts w := by
  rw [accepts_made (d := arrayOf c) rfl fun _ => meaning_eq_ok_iff, Outcome.passed_ofArray]
  simp [Accepts, LengthRule.unbounded, LengthRule.violation?]

section Bounds

variable {min max : Option Nat} {length : LengthRule}

theorem array_meaning (h : LengthRule.ofBounds none min max = .ok length) (c : Checker) :
    (array (some c) min max).meaning = do
      return .ofArray length (some (← c.meaning)) := by
  rw [meaning, meaning?, h]
  cases c.meaning <;> rfl

theorem builds_array :
    (array (some c) min max).Builds ↔
      c.Builds ∧ ∃ length, LengthRule.ofBounds none min max = .ok length := by
  cases h : LengthRule.ofBounds none min max with
  | error e =>
    rw [Builds, meaning, meaning?, h]
    cases c.meaning <;> simp [bind, Except.bind, pure, Except.pure]
  | ok length =>
    rw [builds_made (array_meaning h c) fun _ => meaning_eq_ok_iff]
    simp

/-- An array is accepted if its length is admitted and its elements are accepted. -/
theorem accepts_array (h : LengthRule.ofBounds none min max = .ok length) :
    (array (some c) min max).Accepts v ↔ c.Builds ∧
      ∃ items ∈ v.items?, length.violation? items.length = none ∧ ∀ w ∈ items, c.Accepts w := by
  rw [accepts_made (array_meaning h c) fun _ => meaning_eq_ok_iff, Outcome.passed_ofArray]
  rfl

end Bounds

theorem builds_object {nullable : Bool} :
    (object nullable properties).Builds ↔ ∀ p ∈ properties, p.2.Builds :=
  builds_made rfl fun _ => meaningEntries_eq_ok_iff

/-- An object is accepted if its properties are, each by the last check given for it. -/
theorem accepts_object {nullable : Bool} :
    (object nullable properties).Accepts v ↔ (∀ p ∈ properties, p.2.Builds) ∧
      ((v.isNull = true ∧ nullable = true) ∨
        v.isObject = true ∧ ∀ p ∈ Entries.ofList properties, p.2.Accepts (v.property p.1)) := by
  rw [accepts_made (d := object nullable properties) rfl fun _ => meaningEntries_eq_ok_iff,
    Outcome.passed_ofObject, ObjectOptions.ofList_eq, ← Entries.map_ofList]
  simp only [List.forall_mem_map]
  rfl

/-- A check that is built anew accepts what is accepted by what it builds. -/
theorem accepts_fallible : (fallible c).Accepts v ↔ c.Accepts v := Iff.rfl

theorem builds_fallible : (fallible c).Builds := ⟨_, rfl⟩

end Checker

end Conform
