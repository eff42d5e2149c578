import Conform.Proofs.Trail

/-! Calls: the inspections that are nested in an inspection by a tree, in the order in which they
are completed, and what they leave on record. -/

namespace Conform

section UpToFailure

variable {α β : Type} {passes : α → Bool}

/-- The items up to the first that fails, that one included. -/
def upToFailure (passes : α → Bool) : List α → List α
  | [] => []
  | x :: rest => if passes x then x :: upToFailure passes rest else [x]

theorem mem_of_mem_upToFailure {items : List α} {x : α} (h : x ∈ upToFailure passes items) :
    x ∈ items := by
  induction items with
  | nil => exact h
  | cons y rest ih =>
    rw [upToFailure] at h
    split at h
    · exact (List.mem_cons.mp h).elim (fun he => he ▸ List.mem_cons_self)
        fun h => List.mem_cons_of_mem y (ih h)
    · exact List.mem_singleton.mp h ▸ List.mem_cons_self

/-- Up to its first failure a list is what passes before it, and it. -/
theorem FirstFailure.upToFailure_eq {items before : List α} {item : α}
    (h : FirstFailure passes items before item) : upToFailure passes items = before ++ [item] := by
  induction h with
  | here hf => simp [upToFailure, hf]
  | later hx _ ih => rw [upToFailure, if_pos hx, ih, List.cons_append]

theorem forall_mem_upToFailure {items : List α}
    (h : ∀ before x, ¬ FirstFailure passes items before x) :
    ∀ x ∈ upToFailure passes items, passes x = true := by
  intro x hx
  cases hp : passes x with
  | true => rfl
  | false =>
    have hnot : ¬ ∀ y ∈ items, passes y = true := fun hall =>
      Bool.false_ne_true (hp.symm.trans (hall x (mem_of_mem_upToFailure hx)))
    obtain ⟨before, y, hfirst⟩ := FirstFailure.exists_of_not_forall hnot
    exact (h before y hfirst).elim

theorem upToFailure_map (passes : β → Bool) (f : α → β) (items : List α) :
    upToFailure passes (items.map f) = (upToFailure (fun x => passes (f x)) items).map f := by
  induction items with
  | nil => rfl
  | cons x rest ih =>
    rw [List.map_cons, upToFailure, upToFailure, ih]
    split <;> rfl

end UpToFailure

namespace Recorded

variable {α : Type} {passes : α → Bool} {rest : List α}

/-- A loop that goes on after a pass, and records nothing more after a failure. -/
theorem events_upToFailure {β γ : Type} {passed : β → Bool} {next stop : β → Recorded γ}
    (run : α → Recorded β) (x : α) (hpasses : passes x = passed (run x).value)
    (hnext : ∀ b, (next b).events = (upToFailure passes rest).flatMap fun y => (run y).events)
    (hstop : ∀ b, (stop b).events = []) :
    (run x >>= fun b => if passed b then next b else stop b).events =
      (upToFailure passes (x :: rest)).flatMap fun y => (run y).events := by
  rw [events_bind, upToFailure, hpasses]
  split
  · rw [hnext, List.flatMap_cons]
  · rw [hstop, List.append_nil, List.flatMap_singleton]

/-- A loop that goes on after a failure, and records nothing more after a pass. -/
theorem events_upToPass {next stop : Report → Recorded Report} (run : α → Recorded Report) (x : α)
    (hpasses : passes x = !(run x).value.passed)
    (hstop : ∀ r, (stop r).events = [])
    (hnext : ∀ r, (next r).events = (upToFailure passes rest).flatMap fun y => (run y).events) :
    (run x >>= fun r => if r.passed then stop r else next r).events =
      (upToFailure passes (x :: rest)).flatMap fun y => (run y).events := by
  rw [events_bind, upToFailure, hpasses]
  cases (run x).value.passed with
  | true => simp [hstop]
  | false => simp [hnext]

end Recorded

namespace Inspector

variable {v : Value}

/-- All inspectors are asked up to the first that fails. -/
theorem events_all (inspectors : List Inspector) :
    ((all inspectors).run v).events =
      (upToFailure (fun i => (i.run v).value.passed) inspectors).flatMap
        fun i => (i.inspect v).events := by
  induction inspectors with
  | nil => rfl
  | cons i rest ih =>
    refine Recorded.events_upToFailure (·.inspect v) i (by rw [value_inspect]) (fun _ => ih) ?_
    exact fun _ => rfl

theorem events_any_go (last : Report) (inspectors : List Inspector) :
    (any.go last inspectors v).events =
      (upToFailure (fun i => !(i.run v).value.passed) inspectors).flatMap
        fun i => (i.inspect v).events := by
  induction inspectors generalizing last with
  | nil => rfl
  | cons i rest ih =>
    refine Recorded.events_upToPass (·.inspect v) i (by rw [value_inspect]) ?_ fun _ => ih _
    exact fun _ => rfl

theorem events_elements (element : Inspector) (start : Nat) (items : List Value) :
    (element.elements start items).events =
      (upToFailure (fun w => (element.run w).value.passed) items).flatMap
        fun w => (element.inspect w).events := by
  induction items generalizing start with
  | nil => rfl
  | cons w rest ih =>
    refine Recorded.events_upToFailure element.inspect w (by rw [value_inspect]) (fun _ => ih _) ?_
    exact fun _ => rfl

theorem events_properties (properties : List (String × Inspector)) :
    (object.properties properties v).events =
      (upToFailure (fun p => (p.2.run (v.property p.1)).value.passed) properties).flatMap
        fun p => (p.2.inspect (v.property p.1)).events := by
  induction properties with
  | nil => rfl
  | cons p rest ih =>
    refine Recorded.events_upToFailure (fun p => p.2.inspect (v.property p.1)) p
      (by rw [value_inspect]) (fun _ => ih) ?_
    exact fun _ => rfl

/-- Elements are asked only if the length is admitted, and only up to the first that fails. -/
theorem events_arrayWith (length : LengthRule) (element : Inspector) (id : Nat)
    (items : List Value) :
    ((arrayWith length (some element)).run (.array id items)).events =
      if (length.violation? items.length).isSome then []
      else (upToFailure (fun w => (element.run w).value.passed) items).flatMap
        fun w => (element.inspect w).events := by
  simp only [arrayWith]
  cases length.violation? items.length with
  | some violation => rfl
  | none => exact events_elements element 0 items

/-- Properties are asked only of an object, and only up to the first that fails. -/
theorem events_object (options : ObjectOptions Inspector) :
    ((object options).run v).events =
      if v.isObject then
        (upToFailure (fun p => (p.2.run (v.property p.1)).value.passed) options.properties).flatMap
          fun p => (p.2.inspect (v.property p.1)).events
      else [] := by
  by_cases hv : v.isObject = true
  · obtain ⟨htype, hnull⟩ := Value.isObject_iff.mp hv
    rw [if_pos hv, ← events_properties]
    simp [object, htype, hnull]
  · rw [if_neg hv]
    by_cases htype : v.datatype = .object
    · have hnull : v.isNull = true := by
        cases h : v.isNull with
        | true => rfl
        | false => exact absurd (Value.isObject_iff.mpr ⟨htype, h⟩) hv
      simp [object, htype, hnull]
    · simp [object, htype]

namespace Tree

/-- The trees right below one. -/
def parts : Tree → List Tree
  | leaf _ => []
  | all trees | any trees => trees
  | optional t => [t]
  | array _ element => element.toList
  | object _ properties => properties.map (·.2)

/-- The second tree is the first, or below it. -/
inductive Contains : Tree → Tree → Prop where
  | self (t : Tree) : Contains t t
  | part {t part u : Tree} : part ∈ t.parts → Contains part u → Contains t u

/-- What holds of a tree, and of all that its parts contain, holds of all that it contains. -/
theorem forall_contains {P : Tree → Prop} {t : Tree} (ht : P t)
    (hparts : ∀ part ∈ t.parts, ∀ u, part.Contains u → P u) : ∀ u, t.Contains u → P u
  | _, .self _ => ht
  | u, .part hpart hu => hparts _ hpart u hu

theorem forall_contains_leaf {P : Tree → Prop} {i : Inspector} (h : P (leaf i)) :
    ∀ u, (leaf i).Contains u → P u :=
  forall_contains h nofun

/-- The inspection of a value by a tree. -/
structure Call where
  tree : Tree
  value : Value

/-- The inspections by its parts that a tree makes of a value, in order. -/
def nested : Tree → Value → List Call
  | leaf _, _ => []
  | all trees, v => (upToFailure (·.passes v) trees).map (⟨·, v⟩)
  | any alternatives, v => (upToFailure (fun t => !t.passes v) alternatives).map (⟨·, v⟩)
  | optional t, v => if v.isNullish then [] else [⟨t, v⟩]
  | array length (some t), .array _ items =>
    if (length.violation? items.length).isSome then []
    else (upToFailure t.passes items).map (⟨t, ·⟩)
  | array _ _, _ => []
  | object _ properties, v =>
    if v.isObject then
      (upToFailure (fun p => p.2.passes (v.property p.1)) properties).map
        fun p => ⟨p.2, v.property p.1⟩
    else []

theorem sizeOf_lt_of_mem_parts {t part : Tree} (h : part ∈ t.parts) : sizeOf part < sizeOf t := by
  cases t with
  | leaf i => cases h
  | all trees | any trees =>
    have hlt : sizeOf part < sizeOf trees := List.sizeOf_lt_of_mem h
    simp only [all.sizeOf_spec, any.sizeOf_spec]
    omega
  | optional t =>
    obtain rfl := List.mem_singleton.mp h
    simp only [optional.sizeOf_spec]
    omega
  | array length element =>
    obtain rfl := Option.mem_toList.mp h
    simp only [array.sizeOf_spec, Option.some.sizeOf_spec]
    omega
  | object nullable properties =>
    obtain ⟨p, hp, rfl⟩ := List.mem_map.mp h
    have hlt := List.sizeOf_lt_of_mem hp
    have hsnd : sizeOf p.2 < sizeOf p := by
      cases p
      simp only [Prod.mk.sizeOf_spec]
      omega
    simp only [object.sizeOf_spec]
    omega

/-- What holds of a tree whenever it holds of its parts holds of every tree. -/
@[elab_as_elim]
theorem induction_parts {P : Tree → Prop} (step : ∀ t, (∀ part ∈ t.parts, P part) → P t)
    (t : Tree) : P t := by
  induction t with
  | leaf i => exact step _ nofun
  | all parts ih | any parts ih => exact step _ ih
  | optional t ih => exact step _ fun part hpart => List.mem_singleton.mp hpart ▸ ih
  | array length element ih => exact step _ fun part hpart => ih part (Option.mem_toList.mp hpart)
  | object nullable properties ih =>
    refine step _ fun part hpart => ?_
    obtain ⟨p, hp, rfl⟩ := List.mem_map.mp hpart
    exact ih p hp

/-- A nested call is a call of a part. -/
theorem Call.tree_mem_parts {t : Tree} {v : Value} {c : Call} (h : c ∈ t.nested v) :
    c.tree ∈ t.parts := by
  cases t with
  | leaf i => cases h
  | all trees | any trees =>
    obtain ⟨t, ht, rfl⟩ := List.mem_map.mp h
    exact mem_of_mem_upToFailure ht
  | optional t =>
    rw [nested] at h
    split at h
    · cases h
    · obtain rfl := List.mem_singleton.mp h
      exact List.mem_singleton_self t
  | array length element =>
    cases element with
    | none => cases h
    | some t =>
      cases v with
      | array id items =>
        rw [nested] at h
        split at h
        · cases h
        · obtain ⟨w, -, rfl⟩ := List.mem_map.mp h
          exact List.mem_singleton_self t
      | _ => cases h
  | object nullable properties =>
    rw [nested] at h
    split at h
    · obtain ⟨p, hp, rfl⟩ := List.mem_map.mp h
      exact List.mem_map_of_mem (mem_of_mem_upToFailure hp)
    · cases h

/-- An inspection and those nested in it at any depth, each where it is completed. -/
def calls (t : Tree) (v : Value) : List Call :=
  ((t.nested v).attach.flatMap fun c => calls c.1.tree c.1.value) ++ [⟨t, v⟩]
termination_by sizeOf t
decreasing_by exact sizeOf_lt_of_mem_parts (Call.tree_mem_parts c.2)

/-- The calls of a tree are those of its nested calls, in their order, and then its own. -/
theorem calls_eq (t : Tree) (v : Value) :
    t.calls v = ((t.nested v).flatMap fun c => c.tree.calls c.value) ++ [⟨t, v⟩] := by
  rw [calls, List.flatMap_subtype (g := fun c => c.tree.calls c.value) fun _ _ => rfl,
    List.unattach_attach]

namespace Call

def inspect (c : Call) : Recorded Report := c.tree.inspector.inspect c.value

/-- What a leaf itself leaves on record; other trees only put together what their parts leave. -/
def own (c : Call) : List Event :=
  match c.tree with
  | leaf i => (i.run c.value).events
  | _ => []

/-- What is recorded of an inspection once it is completed. -/
def failure? (c : Call) : Option Event :=
  if c.tree.passes c.value then none else some (.inspectionFailed (c.tree.report c.value).kind)

end Call

/-- A tree leaves on record what the inspections by its parts do, a leaf what it does itself. -/
theorem events_run (t : Tree) (v : Value) :
    (t.inspector.run v).events =
      ((t.nested v).flatMap fun c => c.inspect.events) ++ Call.own ⟨t, v⟩ := by
  -- Only a leaf records anything on its own account; the loops record the nested inspections.
  cases t with
  | leaf i => rfl
  | all trees =>
    rw [inspector_all, events_all, upToFailure_map, List.flatMap_map, nested, List.flatMap_map]
    exact (List.append_nil _).symm
  | any alternatives =>
    rw [inspector_any, Inspector.any, events_any_go, upToFailure_map, List.flatMap_map, nested,
      List.flatMap_map]
    exact (List.append_nil _).symm
  | optional t =>
    change (if v.isNullish then pure .pass else t.inspector.inspect v : Recorded Report).events = _
    rw [nested]
    split <;> simp [Call.own, Call.inspect]
  | array length element =>
    rw [inspector_array]
    cases element with
    | none =>
      cases v with
      | array id items =>
        simp only [Option.map_none, arrayWith]
        cases length.violation? items.length <;> rfl
      | _ => rfl
    | some t =>
      cases v with
      | array id items =>
        rw [Option.map_some, events_arrayWith, nested]
        split
        · rfl
        · rw [List.flatMap_map]
          exact (List.append_nil _).symm
      | _ => rfl
  | object nullable properties =>
    rw [inspector_object, events_object, nested]
    split
    · rw [upToFailure_map, List.flatMap_map, List.flatMap_map]
      exact (List.append_nil _).symm
    · rfl

/-- An inspection adds one event to those of the run, if it fails. -/
theorem events_inspect (t : Tree) (v : Value) :
    (t.inspector.inspect v).events =
      (t.inspector.run v).events ++ (Call.failure? ⟨t, v⟩).toList := by
  rw [Inspector.events_inspect, Call.failure?, passes, report]
  split <;> rfl

/-- What an inspection leaves on record is what its leaves do, and the failures of the inspections
nested in it, each where it is completed. -/
theorem events_eq_calls (t : Tree) (v : Value) :
    (t.inspector.inspect v).events =
      (t.calls v).flatMap fun c => c.own ++ c.failure?.toList := by
  induction t using induction_parts generalizing v with
  | step t ih =>
    have hnested : (t.nested v).map (fun c => c.inspect.events) =
        (t.nested v).map fun c =>
          (c.tree.calls c.value).flatMap fun d => d.own ++ d.failure?.toList :=
      List.map_congr_left fun c hc => ih c.tree (Call.tree_mem_parts hc) c.value
    rw [events_inspect, events_run, calls_eq, List.flatMap_append, List.flatMap_assoc,
      List.flatMap_def, hnested, ← List.flatMap_def, List.flatMap_singleton, List.append_assoc]

/-- Only trees that are part of a tree are called. -/
theorem Contains.of_mem_calls {t : Tree} {v : Value} {c : Call} (h : c ∈ t.calls v) :
    t.Contains c.tree := by
  induction t using induction_parts generalizing v with
  | step t ih =>
    rw [calls_eq, List.mem_append] at h
    rcases h with h | h
    · obtain ⟨d, hd, hc⟩ := List.mem_flatMap.mp h
      exact .part (Call.tree_mem_parts hd) (ih d.tree (Call.tree_mem_parts hd) hc)
    · obtain rfl := List.mem_singleton.mp h
      exact .self t

end Tree

end Inspector

end Conform
