import Conform.Proofs.FirstFailure

/-! Trees of inspectors: leaves of any kind, put together by the ways of combining inspectors. -/

namespace Conform.Inspector

inductive Tree where
  | leaf (inspector : Inspector)
  | all (parts : List Tree)
  | any (alternatives : List Tree)
  | optional (tree : Tree)
  | array (length : LengthRule) (element : Option Tree)
  | object (nullable : Bool) (properties : List (String × Tree))

namespace Tree

mutual

/-- The inspector that a tree puts together. -/
def inspector : Tree → Inspector
  | leaf i => i
  | all parts => Inspector.all (inspectors parts)
  | any alternatives => Inspector.any (inspectors alternatives)
  | optional t => t.inspector.optional
  | array length element => Inspector.arrayWith length (inspector? element)
  | object nullable properties => Inspector.object ⟨nullable, inspectorEntries properties⟩

def inspectors : List Tree → List Inspector
  | [] => []
  | t :: rest => t.inspector :: inspectors rest

def inspector? : Option Tree → Option Inspector
  | none => none
  | some t => some t.inspector

def inspectorEntries : List (String × Tree) → List (String × Inspector)
  | [] => []
  | (name, t) :: rest => (name, t.inspector) :: inspectorEntries rest

end

theorem inspectors_eq_map (trees : List Tree) : inspectors trees = trees.map inspector := by
  induction trees with
  | nil => rfl
  | cons t rest ih => exact congrArg (t.inspector :: ·) ih

/-- A property with its inspector. -/
def entry (p : String × Tree) : String × Inspector := (p.1, p.2.inspector)

theorem inspectorEntries_eq_map (properties : List (String × Tree)) :
    inspectorEntries properties = properties.map entry := by
  induction properties with
  | nil => rfl
  | cons p rest ih => exact congrArg (entry p :: ·) ih

theorem inspector_all (parts : List Tree) :
    (all parts).inspector = Inspector.all (parts.map inspector) :=
  congrArg Inspector.all (inspectors_eq_map parts)

theorem inspector_any (alternatives : List Tree) :
    (any alternatives).inspector = Inspector.any (alternatives.map inspector) :=
  congrArg Inspector.any (inspectors_eq_map alternatives)

theorem inspector_array (length : LengthRule) (element : Option Tree) :
    (array length element).inspector = Inspector.arrayWith length (element.map inspector) := by
  cases element <;> rfl

theorem inspector_object (nullable : Bool) (properties : List (String × Tree)) :
    (object nullable properties).inspector =
      Inspector.object ⟨nullable, properties.map entry⟩ :=
  congrArg (fun ps => Inspector.object ⟨nullable, ps⟩) (inspectorEntries_eq_map properties)

/-- What holds of a tree whenever it holds of the trees right below it holds of every tree. -/
@[elab_as_elim, induction_eliminator]
theorem induction {P : Tree → Prop}
    (leaf : ∀ i, P (leaf i))
    (all : ∀ parts, (∀ t ∈ parts, P t) → P (all parts))
    (any : ∀ alternatives, (∀ t ∈ alternatives, P t) → P (any alternatives))
    (optional : ∀ t, P t → P (optional t))
    (array : ∀ length element, (∀ t ∈ element, P t) → P (array length element))
    (object : ∀ nullable properties, (∀ p ∈ properties, P p.2) → P (object nullable properties))
    (t : Tree) : P t := by
  refine @Tree.rec P (fun trees => ∀ t ∈ trees, P t) (fun tree => ∀ t ∈ tree, P t)
    (fun properties => ∀ p ∈ properties, P p.2) (fun p => P p.2)
    leaf all any optional array object ?_ ?_ ?_ ?_ ?_ ?_ ?_ t
  · simp
  · intro t rest ht hrest
    exact List.forall_mem_cons.mpr ⟨ht, hrest⟩
  · simp
  · intro t ht
    simpa using ht
  · simp
  · intro p rest hp hrest
    exact List.forall_mem_cons.mpr ⟨hp, hrest⟩
  · intro name t ht
    exact ht

end Tree

end Conform.Inspector
