import Conform.Checker

/-! The nodes of a description of a checker, and what it is built of. -/

namespace Conform.Checker

/-- The descriptions right below one. -/
def parts : Checker → List Checker
  | all checkers | any checkers => checkers
  | optional c | arrayOf c | ofValidator c | toValidator c | fallible c | within c _ => [c]
  | array element _ _ => element.toList
  | object _ properties => properties.map (·.2)
  | _ => []

mutual

/-- The description and all descriptions below it. -/
def nodes : Checker → List Checker
  | all checkers => all checkers :: nodesOf checkers
  | any checkers => any checkers :: nodesOf checkers
  | optional c => optional c :: c.nodes
  | arrayOf c => arrayOf c :: c.nodes
  | array element min max => array element min max :: nodesOf? element
  | object nullable properties => object nullable properties :: nodesOfEntries properties
  | ofValidator c => ofValidator c :: c.nodes
  | toValidator c => toValidator c :: c.nodes
  | fallible c => fallible c :: c.nodes
  | within c wrap => within c wrap :: c.nodes
  | c => [c]

def nodesOf : List Checker → List Checker
  | [] => []
  | c :: rest => c.nodes ++ nodesOf rest

def nodesOf? : Option Checker → List Checker
  | none => []
  | some c => c.nodes

def nodesOfEntries : List (String × Checker) → List Checker
  | [] => []
  | (_, c) :: rest => c.nodes ++ nodesOfEntries rest

end

/-- The names of properties that a description declares on its own account. -/
def ownKeys : Checker → List String
  | object _ properties => properties.map (·.1)
  | _ => []

/-- The names of properties that are declared anywhere in a description. -/
def keys (c : Checker) : List String := c.nodes.flatMap ownKeys

theorem nodesOf_eq (checkers : List Checker) : nodesOf checkers = checkers.flatMap nodes := by
  induction checkers with
  | nil => rfl
  | cons c rest ih => exact congrArg (c.nodes ++ ·) ih

theorem nodesOfEntries_eq (properties : List (String × Checker)) :
    nodesOfEntries properties = (properties.map (·.2)).flatMap nodes := by
  induction properties with
  | nil => rfl
  | cons p rest ih => exact congrArg (p.2.nodes ++ ·) ih

/-- The nodes of a description are itself and those of its parts. -/
theorem nodes_eq (c : Checker) : c.nodes = c :: c.parts.flatMap nodes := by
  cases c with
  | all checkers | any checkers => exact congrArg _ (nodesOf_eq checkers)
  | object nullable properties => exact congrArg _ (nodesOfEntries_eq properties)
  | optional c | arrayOf c | ofValidator c | toValidator c | fallible c | within c _ =>
    exact congrArg _ (List.append_nil c.nodes).symm
  | array element min max =>
    cases element with
    | none => rfl
    | some c => exact congrArg _ (List.append_nil c.nodes).symm
  | _ => rfl

theorem mem_nodes_self (c : Checker) : c ∈ c.nodes := by
  rw [nodes_eq]
  exact List.mem_cons_self

variable {c d part : Checker}

theorem nodes_subset_of_mem_parts (h : part ∈ c.parts) : part.nodes ⊆ c.nodes := by
  intro d hd
  rw [nodes_eq c]
  exact List.mem_cons_of_mem _ (List.mem_flatMap.mpr ⟨part, h, hd⟩)

/-- A part declares no key that the whole does not. -/
theorem keys_subset_of_mem_parts (h : part ∈ c.parts) : part.keys ⊆ c.keys := by
  intro key hkey
  obtain ⟨d, hd, hkey⟩ := List.mem_flatMap.mp hkey
  exact List.mem_flatMap.mpr ⟨d, nodes_subset_of_mem_parts h hd, hkey⟩

theorem ownKeys_subset_keys (c : Checker) : c.ownKeys ⊆ c.keys := by
  intro key hkey
  exact List.mem_flatMap.mpr ⟨c, c.mem_nodes_self, hkey⟩

theorem sizeOf_lt_of_mem_parts (h : part ∈ c.parts) : sizeOf part < sizeOf c := by
  cases c with
  | all checkers | any checkers =>
    have hlt : sizeOf part < sizeOf checkers := List.sizeOf_lt_of_mem h
    simp only [all.sizeOf_spec, any.sizeOf_spec]
    omega
  | object nullable properties =>
    obtain ⟨p, hp, rfl⟩ := List.mem_map.mp h
    have hlt := List.sizeOf_lt_of_mem hp
    have hsnd : sizeOf p.2 < sizeOf p := by
      cases p
      simp only [Prod.mk.sizeOf_spec]
      omega
    simp only [object.sizeOf_spec]
    omega
  | array element min max =>
    obtain rfl := Option.mem_toList.mp h
    simp only [array.sizeOf_spec, Option.some.sizeOf_spec]
    omega
  | optional c | arrayOf c | ofValidator c | toValidator c | fallible c | within c wrap =>
    obtain rfl := List.mem_singleton.mp h
    simp only [optional.sizeOf_spec, arrayOf.sizeOf_spec, ofValidator.sizeOf_spec,
      toValidator.sizeOf_spec, fallible.sizeOf_spec, within.sizeOf_spec]
    omega
  | _ => cases h

/-- What holds of a description whenever it holds of its parts holds of every description. -/
@[elab_as_elim]
theorem induction_parts {P : Checker → Prop} (step : ∀ c, (∀ part ∈ c.parts, P part) → P c)
    (c : Checker) : P c :=
  step c fun part _ => induction_parts step part
termination_by sizeOf c
decreasing_by exact sizeOf_lt_of_mem_parts ‹_›

end Conform.Checker
