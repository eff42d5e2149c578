import Conform.Assert

/-! The first failure in a list, and what the loops of checkers that stop there say of it. -/

namespace Conform

variable {α β : Type} {passes : α → Bool} {items before : List α} {item : α}

/-- `item` fails and is the first of the items to do so; `before` are those that stand before it. -/
inductive FirstFailure (passes : α → Bool) : List α → List α → α → Prop where
  | here {item : α} {rest : List α} : passes item = false →
      FirstFailure passes (item :: rest) [] item
  | later {x item : α} {rest before : List α} : passes x = true →
      FirstFailure passes rest before item → FirstFailure passes (x :: rest) (x :: before) item

namespace FirstFailure

theorem fails (h : FirstFailure passes items before item) : passes item = false := by
  induction h with
  | here hf => exact hf
  | later _ _ ih => exact ih

theorem earlier (h : FirstFailure passes items before item) : ∀ x ∈ before, passes x = true := by
  induction h with
  | here _ => simp
  | later hx _ ih => simpa [hx] using ih

theorem split (h : FirstFailure passes items before item) :
    ∃ after, items = before ++ item :: after := by
  induction h with
  | @here item rest _ => exact ⟨rest, rfl⟩
  | later _ _ ih =>
    obtain ⟨after, rfl⟩ := ih
    exact ⟨after, rfl⟩

theorem mem (h : FirstFailure passes items before item) : item ∈ items := by
  obtain ⟨after, rfl⟩ := h.split
  simp

theorem not_forall (h : FirstFailure passes items before item) :
    ¬ ∀ x ∈ items, passes x = true := by
  intro hall
  exact Bool.false_ne_true (h.fails.symm.trans (hall item h.mem))

/-- The index of the first failure is the number of those that pass before it. -/
theorem getElem?_length (h : FirstFailure passes items before item) :
    items[before.length]? = some item := by
  obtain ⟨after, rfl⟩ := h.split
  simp

/-- There is no more than one first failure. -/
theorem unique {before' : List α} {item' : α} (h : FirstFailure passes items before item)
    (h' : FirstFailure passes items before' item') : before' = before ∧ item' = item := by
  induction h generalizing before' with
  | here hf =>
    cases h' with
    | here _ => exact ⟨rfl, rfl⟩
    | later hx _ => simp [hf] at hx
  | later hx _ ih =>
    cases h' with
    | here hf => simp [hx] at hf
    | later _ h' =>
      obtain ⟨rfl, rfl⟩ := ih h'
      exact ⟨rfl, rfl⟩

/-- Where something fails, something fails first. -/
theorem exists_of_not_forall (h : ¬ ∀ x ∈ items, passes x = true) :
    ∃ before item, FirstFailure passes items before item := by
  induction items with
  | nil => exact (h (by simp)).elim
  | cons x rest ih =>
    cases hx : passes x with
    | false => exact ⟨[], x, .here hx⟩
    | true =>
      obtain ⟨before, item, hrest⟩ := ih fun hall => h (List.forall_mem_cons.mpr ⟨hx, hall⟩)
      exact ⟨x :: before, item, .later hx hrest⟩

theorem map {passes : β → Bool} (f : α → β)
    (h : FirstFailure (fun x => passes (f x)) items before item) :
    FirstFailure passes (items.map f) (before.map f) (f item) := by
  induction h with
  | here hf => exact .here hf
  | later hx _ ih => exact .later hx ih

end FirstFailure

namespace Inspector

variable {v : Value}

theorem value_all_cons (i : Inspector) (rest : List Inspector) :
    ((all (i :: rest)).run v).value =
      if (i.run v).value.passed then ((all rest).run v).value else (i.run v).value := by
  change (do
    let report ← i.inspect v
    if report.passed then (all rest).run v else return report : Recorded Report).value = _
  cases h : (i.run v).value.passed <;> simp [h]

theorem all_of_pass {inspectors : List Inspector}
    (h : ∀ i ∈ inspectors, (i.run v).value.passed = true) :
    ((all inspectors).run v).value = .pass := by
  induction inspectors with
  | nil => rfl
  | cons i rest ih =>
    rw [value_all_cons, if_pos (h i (by simp))]
    exact ih fun j hj => h j (by simp [hj])

/-- A conjunction reports the first of its inspectors that fails. -/
theorem all_of_firstFailure {inspectors before : List Inspector} {i : Inspector}
    (h : FirstFailure (fun i => (i.run v).value.passed) inspectors before i) :
    ((all inspectors).run v).value = (i.run v).value := by
  induction h with
  | here hf => rw [value_all_cons, if_neg (by simp [hf])]
  | later hp _ ih => rw [value_all_cons, if_pos hp, ih]

theorem value_any_go_cons (last : Report) (i : Inspector) (rest : List Inspector) :
    (any.go last (i :: rest) v).value =
      if (i.run v).value.passed then (i.run v).value
      else
        (any.go ((i.run v).value.within ("no alternative matched, last: " ++ ·)) rest v).value := by
  rw [any.go]
  cases h : (i.run v).value.passed <;> simp [h]

/-- A choice passes with any of its alternatives. -/
theorem passed_any_of_mem {inspectors : List Inspector} {i : Inspector} (hi : i ∈ inspectors)
    (h : (i.run v).value.passed = true) (last : Report) :
    (any.go last inspectors v).value.passed = true := by
  induction inspectors generalizing last with
  | nil => cases hi
  | cons j rest ih =>
    rw [value_any_go_cons]
    split
    · assumption
    · rcases List.mem_cons.mp hi with rfl | hi
      · contradiction
      · exact ih hi _

/-- If no alternative passes, the last one is heard. -/
theorem any_go_of_fail {inspectors : List Inspector} {i : Inspector}
    (h : ∀ j ∈ inspectors, (j.run v).value.passed = false) (hi : (i.run v).value.passed = false)
    (last : Report) :
    (any.go last (inspectors ++ [i]) v).value =
      (i.run v).value.within ("no alternative matched, last: " ++ ·) := by
  induction inspectors generalizing last with
  | nil =>
    rw [List.nil_append, value_any_go_cons, if_neg (by simp [hi])]
    rfl
  | cons j rest ih =>
    rw [List.cons_append, value_any_go_cons, if_neg (by simp [h j])]
    exact ih (fun k hk => h k (by simp [hk])) _

theorem value_optional (i : Inspector) :
    (i.optional.run v).value = if v.isNullish then .pass else (i.run v).value := by
  unfold optional
  split <;> simp [*]

theorem value_elements_cons (element : Inspector) (start : Nat) (w : Value) (rest : List Value) :
    (element.elements start (w :: rest)).value =
      if (element.run w).value.passed then (element.elements (start + 1) rest).value
      else (element.run w).value.within ("for index " ++ Nat.repr start ++ ", " ++ ·) := by
  rw [elements]
  cases h : (element.run w).value.passed <;> simp [h]

theorem elements_of_pass {element : Inspector} {items : List Value}
    (h : ∀ w ∈ items, (element.run w).value.passed = true) (start : Nat) :
    (element.elements start items).value = .pass := by
  induction items generalizing start with
  | nil => rfl
  | cons w rest ih =>
    rw [value_elements_cons, if_pos (h w (by simp))]
    exact ih (fun u hu => h u (by simp [hu])) _

/-- Of elements the first that fails is reported, with its index. -/
theorem elements_of_firstFailure {element : Inspector} {items before : List Value} {w : Value}
    (h : FirstFailure (fun u => (element.run u).value.passed) items before w) (start : Nat) :
    (element.elements start items).value =
      (element.run w).value.within
        ("for index " ++ Nat.repr (start + before.length) ++ ", " ++ ·) := by
  induction h generalizing start with
  | here hf => rw [value_elements_cons, if_neg (by simp [hf]), List.length_nil, Nat.add_zero]
  | later hp _ ih =>
    rw [value_elements_cons, if_pos hp, ih, List.length_cons, Nat.add_right_comm, Nat.add_assoc]

theorem value_properties_cons (p : String × Inspector) (rest : List (String × Inspector)) :
    (object.properties (p :: rest) v).value =
      if (p.2.run (v.property p.1)).value.passed then (object.properties rest v).value
      else (p.2.run (v.property p.1)).value.within ("for property " ++ p.1 ++ ", " ++ ·) := by
  rw [object.properties]
  cases h : (p.2.run (v.property p.1)).value.passed <;> simp [h]

theorem properties_of_pass {properties : List (String × Inspector)}
    (h : ∀ p ∈ properties, (p.2.run (v.property p.1)).value.passed = true) :
    (object.properties properties v).value = .pass := by
  induction properties with
  | nil => rfl
  | cons p rest ih =>
    rw [value_properties_cons, if_pos (h p (by simp))]
    exact ih fun q hq => h q (by simp [hq])

/-- Of properties the first that fails is reported, with its key. -/
theorem properties_of_firstFailure {properties before : List (String × Inspector)}
    {p : String × Inspector}
    (h : FirstFailure (fun p => (p.2.run (v.property p.1)).value.passed) properties before p) :
    (object.properties properties v).value =
      (p.2.run (v.property p.1)).value.within ("for property " ++ p.1 ++ ", " ++ ·) := by
  induction h with
  | here hf => rw [value_properties_cons, if_neg (by simp [hf])]
  | later hp _ ih => rw [value_properties_cons, if_pos hp, ih]

section Arrays

variable {length : LengthRule} {id : Nat} {items before : List Value}

/-- A length that is not admitted is reported before any element is looked at. -/
theorem arrayWith_of_violation {x : Violation} (h : length.violation? items.length = some x)
    (element : Option Inspector) :
    ((arrayWith length element).run (.array id items)).value = .ofViolation x := by
  simp only [arrayWith, h]
  rfl

theorem arrayWith_of_pass {element : Option Inspector}
    (hlen : length.violation? items.length = none)
    (h : ∀ i ∈ element, ∀ w ∈ items, (i.run w).value.passed = true) :
    ((arrayWith length element).run (.array id items)).value = .pass := by
  simp only [arrayWith, hlen]
  cases element with
  | none => rfl
  | some i => exact elements_of_pass (h i rfl) 0

theorem arrayWith_of_firstFailure {element : Inspector} {w : Value}
    (hlen : length.violation? items.length = none)
    (h : FirstFailure (fun u => (element.run u).value.passed) items before w) :
    ((arrayWith length (some element)).run (.array id items)).value =
      (element.run w).value.within ("for index " ++ Nat.repr before.length ++ ", " ++ ·) := by
  simp only [arrayWith, hlen]
  rw [elements_of_firstFailure h, Nat.zero_add]

end Arrays

section Objects

variable {nullable : Bool} {properties before : List (String × Inspector)} {p : String × Inspector}

theorem value_object (h : v.isObject = true) :
    ((object ⟨nullable, properties⟩).run v).value = (object.properties properties v).value := by
  obtain ⟨htype, hnull⟩ := Value.isObject_iff.mp h
  simp [object, htype, hnull]

theorem object_of_pass (hv : v.isObject = true)
    (h : ∀ p ∈ properties, (p.2.run (v.property p.1)).value.passed = true) :
    ((object ⟨nullable, properties⟩).run v).value = .pass := by
  rw [value_object hv, properties_of_pass h]

theorem object_of_firstFailure (hv : v.isObject = true)
    (h : FirstFailure (fun p => (p.2.run (v.property p.1)).value.passed) properties before p) :
    ((object ⟨nullable, properties⟩).run v).value =
      (p.2.run (v.property p.1)).value.within ("for property " ++ p.1 ++ ", " ++ ·) := by
  rw [value_object hv, properties_of_firstFailure h]

end Objects

end Inspector

end Conform
