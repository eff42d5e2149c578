import Conform.Value.Property

/-! Registries: what each identity stands for. Identities determine the contents of all values that
are in one registry. -/

namespace Conform

structure Registry where
  symbols : Nat → Option String
  arrays : Nat → Option (List Value)
  objects : Nat → Option (Option Class × List (String × Value))
  patterns : Nat → Option Pattern
  functions : Nat → Option Function
  classes : Nat → Option Class

variable {r : Registry}

namespace Class

variable {c d : Class}

/-- The identities of the class and of its ancestors stand for just these. -/
def IsIn (r : Registry) (c : Class) : Prop := ∀ d ∈ c.lineage, r.classes d.id = some d

theorem mem_lineage_self (c : Class) : c ∈ c.lineage := by
  cases c <;> exact List.mem_cons_self

theorem lineage_subset (h : d ∈ c.lineage) : d.lineage ⊆ c.lineage := by
  induction c with
  | base id name =>
    obtain rfl := List.mem_singleton.mp h
    exact List.Subset.refl _
  | derived id name parent ih =>
    rcases List.mem_cons.mp h with rfl | h
    · exact List.Subset.refl _
    · exact List.Subset.trans (ih h) (List.subset_cons_self _ _)

theorem IsIn.ancestor (h : c.IsIn r) (hd : d ∈ c.lineage) : d.IsIn r :=
  fun e he => h e (lineage_subset hd he)

/-- Classes of one registry with the same identity are the same class. -/
theorem IsIn.eq_of_same (hc : c.IsIn r) (hd : d.IsIn r) (h : c.same d = true) : c = d := by
  have hid : c.id = d.id := eq_of_beq h
  exact Option.some.inj ((hc c c.mem_lineage_self).symm.trans (hid ▸ hd d d.mem_lineage_self))

theorem same_self (c : Class) : c.same c = true := beq_self_eq_true c.id

/-- In one registry, subclasses of a class are those in whose lineage it is. -/
theorem IsIn.isSubclassOf_iff (hc : c.IsIn r) (hd : d.IsIn r) :
    c.isSubclassOf d = true ↔ d ∈ c.lineage := by
  rw [isSubclassOf, List.any_eq_true]
  constructor
  · rintro ⟨e, he, hsame⟩
    rwa [← (hc.ancestor he).eq_of_same hd hsame]
  · intro h
    exact ⟨d, h, d.same_self⟩

end Class

namespace Function

variable {f g : Function}

def IsIn (r : Registry) (f : Function) : Prop :=
  r.functions f.id = some f ∧ ∀ c ∈ f.class?, c.IsIn r

theorem IsIn.eq_of_id (hf : f.IsIn r) (hg : g.IsIn r) (h : f.id = g.id) : f = g :=
  Option.some.inj (hf.1.symm.trans (h ▸ hg.1))

end Function

namespace Value

mutual

/-- All identities in a value stand for what they have there. -/
def IsIn (r : Registry) : Value → Prop
  | symbol id description => r.symbols id = some description
  | array id items => r.arrays id = some items ∧ allIn r items
  | object id cls entries =>
    r.objects id = some (cls, entries) ∧ (∀ c ∈ cls, c.IsIn r) ∧ entriesIn r entries
  | regexp id pattern => r.patterns id = some pattern
  | function f => f.IsIn r
  | _ => True

def allIn (r : Registry) : List Value → Prop
  | [] => True
  | v :: rest => v.IsIn r ∧ allIn r rest

def entriesIn (r : Registry) : List (String × Value) → Prop
  | [] => True
  | (_, v) :: rest => v.IsIn r ∧ entriesIn r rest

end

theorem allIn_iff {items : List Value} : allIn r items ↔ ∀ v ∈ items, v.IsIn r := by
  induction items with
  | nil => simp [allIn]
  | cons v rest ih => simp [allIn, ih]

theorem entriesIn_iff {entries : List (String × Value)} :
    entriesIn r entries ↔ ∀ entry ∈ entries, entry.2.IsIn r := by
  induction entries with
  | nil => simp [entriesIn]
  | cons entry rest ih => simp [entriesIn, ih]

/-- The elements of an array are in the registry that the array is in. -/
theorem IsIn.of_mem_items {i : Nat} {items : List Value} (h : (array i items).IsIn r) {v : Value}
    (hv : v ∈ items) : v.IsIn r :=
  allIn_iff.mp h.2 v hv

theorem IsIn.of_mem_entries {i : Nat} {cls : Option Class} {entries : List (String × Value)}
    (h : (object i cls entries).IsIn r) {entry : String × Value} (hentry : entry ∈ entries) :
    entry.2.IsIn r :=
  entriesIn_iff.mp h.2.2 entry hentry

theorem isIn_getD {v? : Option Value} (h : ∀ v ∈ v?, v.IsIn r) : (v?.getD undefined).IsIn r := by
  cases v? with
  | none => trivial
  | some v => exact h v rfl

/-- What is read from a value in a registry is in the registry. -/
theorem IsIn.property {v : Value} (h : v.IsIn r) (key : String) : (v.property key).IsIn r := by
  cases v with
  | object i cls entries =>
    refine isIn_getD fun v hv => ?_
    obtain ⟨entry, hentry, rfl⟩ := Option.map_eq_some_iff.mp hv
    exact h.of_mem_entries (List.mem_of_find?_eq_some hentry)
  | array i items =>
    simp only [Value.property]
    split
    · trivial
    · refine isIn_getD fun v hv => ?_
      obtain ⟨index, -, hv⟩ := Option.bind_eq_some_iff.mp hv
      exact h.of_mem_items (List.mem_of_getElem? hv)
  | regexp i pattern =>
    simp only [Value.property]
    split <;> trivial
  | _ => trivial

end Value

end Conform
