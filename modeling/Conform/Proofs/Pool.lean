import Conform.Report.Pool

/-! What reading does to a pool: it fills the cells that the value read rests on, each once, and
leaves all others as they are. -/

namespace Conform

variable {α : Type}

section Making

/-! What is known of the making of cells: the initializer that each was made with, although a pool
forgets it once it has run. -/

variable (made : Nat → Initializer α → Prop)

/-- The value that a handle stands for, by the making of the cells. -/
inductive StandsFor : Handle α → α → Prop where
  | fixed (a : α) : StandsFor (.fixed a) a
  | computed {i : Nat} {value : Thunk α} :
      made i (.compute value) → StandsFor (.cell i) value.get
  | wrapped {i : Nat} {f : α → α} {inner : Handle α} {a : α} :
      made i (.wrap f inner) → StandsFor inner a → StandsFor (.cell i) (f a)

/-- A handle on a cell rests on that cell, and on whatever the cell wraps. -/
inductive RestsOn : Handle α → Nat → Prop where
  | self (i : Nat) : RestsOn (.cell i) i
  | inner {i j : Nat} {f : α → α} {inner : Handle α} :
      made i (.wrap f inner) → RestsOn inner j → RestsOn (.cell i) j

/-- Each cell is made once, and wraps none but earlier cells. -/
structure Grounded : Prop where
  unique : ∀ {i a b}, made i a → made i b → a = b
  earlier : ∀ {i f j}, made i (.wrap f (.cell j)) → j < i

end Making

variable {made made' : Nat → Initializer α → Prop} {pool pool' : Pool α} {h : Handle α}
  {i j : Nat} {a : α}

/-- What rests on a cell rests on all that the cell rests on. -/
theorem RestsOn.trans (hi : RestsOn made h i) (hj : RestsOn made (.cell i) j) :
    RestsOn made h j := by
  induction hi with
  | self _ => exact hj
  | inner hm _ ih => exact .inner hm (ih hj)

theorem RestsOn.mono (hsub : ∀ i init, made i init → made' i init) (hr : RestsOn made h i) :
    RestsOn made' h i := by
  induction hr with
  | self i => exact .self i
  | inner hm _ ih => exact .inner (hsub _ _ hm) ih

theorem StandsFor.mono (hsub : ∀ i init, made i init → made' i init) (hs : StandsFor made h a) :
    StandsFor made' h a := by
  induction hs with
  | fixed a => exact .fixed a
  | computed hm => exact .computed (hsub _ _ hm)
  | wrapped hm _ ih => exact .wrapped (hsub _ _ hm) ih

theorem not_restsOn_fixed : ¬ RestsOn made (.fixed a) i := nofun

namespace Grounded

/-- Cells rest on themselves and on older ones. -/
theorem restsOn_le (hg : Grounded made) (hr : RestsOn made h j) (hh : h = .cell i) : j ≤ i := by
  induction hr generalizing i with
  | self _ =>
    cases hh
    exact Nat.le_refl _
  | @inner k j f inner hm hr ih =>
    cases hh
    cases inner with
    | fixed a => exact (not_restsOn_fixed hr).elim
    | cell l => exact Nat.le_of_lt (Nat.lt_of_le_of_lt (ih rfl) (hg.earlier hm))

theorem restsOn_iff_of_compute (hg : Grounded made) {value : Thunk α}
    (hm : made i (.compute value)) : RestsOn made (.cell i) j ↔ j = i := by
  constructor
  · intro hr
    cases hr with
    | self _ => rfl
    | inner hm' _ => cases hg.unique hm hm'
  · rintro rfl
    exact .self j

theorem restsOn_iff_of_wrap (hg : Grounded made) {f : α → α} {inner : Handle α}
    (hm : made i (.wrap f inner)) :
    RestsOn made (.cell i) j ↔ j = i ∨ RestsOn made inner j := by
  constructor
  · intro hr
    cases hr with
    | self _ => exact .inl rfl
    | inner hm' hr =>
      cases hg.unique hm hm'
      exact .inr hr
  · rintro (rfl | hr)
    · exact .self j
    · exact .inner hm hr

/-- A handle stands for one value. -/
theorem standsFor_unique (hg : Grounded made) {b : α} (ha : StandsFor made h a)
    (hb : StandsFor made h b) : a = b := by
  induction ha generalizing b with
  | fixed _ =>
    cases hb
    rfl
  | computed hm =>
    cases hb with
    | computed hm' =>
      cases hg.unique hm hm'
      rfl
    | wrapped hm' _ => cases hg.unique hm hm'
  | wrapped hm _ ih =>
    cases hb with
    | computed hm' => cases hg.unique hm hm'
    | wrapped hm' hb =>
      cases hg.unique hm hm'
      rw [ih hb]

end Grounded

namespace Pool

/-- A cell waits with the initializer that it was made with, or has the value that it stands for,
and then every cell that it rests on has run. -/
inductive Keeps (made : Nat → Initializer α → Prop) (pool : Pool α) (i : Nat) : Prop where
  | waiting {init : Initializer α} : made i init → pool.cells[i]? = some ⟨some init, none⟩ →
      i ∉ pool.runs → Keeps made pool i
  | done {a : α} : StandsFor made (.cell i) a → pool.cells[i]? = some ⟨none, some a⟩ →
      (∀ j, RestsOn made (.cell i) j → j ∈ pool.runs) → Keeps made pool i

/-- From one pool to the other the cells that a handle rests on are filled. Those of them that had
not run run once, and nothing else happens. -/
structure Filled (made : Nat → Initializer α → Prop) (h : Handle α) (pool pool' : Pool α) :
    Prop where
  length : pool'.cells.length = pool.cells.length
  others : ∀ i, ¬ RestsOn made h i → pool'.cells[i]? = pool.cells[i]?
  filled : ∀ i, RestsOn made h i →
    ∃ a, StandsFor made (.cell i) a ∧ pool'.cells[i]? = some ⟨none, some a⟩
  runs : ∃ new, pool'.runs = new ++ pool.runs ∧ new.Nodup ∧
    ∀ i, i ∈ new ↔ RestsOn made h i ∧ i ∉ pool.runs

/-- A cell that was run holds the value that it stands for. -/
theorem Keeps.ran_of_mem (hk : Keeps made pool i) (hi : i ∈ pool.runs) :
    ∃ a, StandsFor made (.cell i) a ∧ pool.cells[i]? = some ⟨none, some a⟩ := by
  cases hk with
  | waiting _ _ hnot => exact absurd hi hnot
  | done hs hc _ => exact ⟨_, hs, hc⟩

theorem cells_start_of_ne (pool : Pool α) (hne : i ≠ j) :
    (pool.start j).cells[i]? = pool.cells[i]? :=
  List.getElem?_modify_ne _ _ hne.symm

theorem cells_store_of_ne (pool : Pool α) (hne : i ≠ j) (value : α) :
    (pool.store j value).cells[i]? = pool.cells[i]? :=
  List.getElem?_modify_ne _ _ hne.symm

theorem cells_store_start {cell : Cell α} (hc : pool.cells[i]? = some cell) (value : α) :
    ((pool.start i).store i value).cells[i]? = some ⟨none, some value⟩ := by
  simp [store, start, List.getElem?_modify_eq, hc]

section Equations

theorem readCell?_of_value {value : α} {init : Option (Initializer α)}
    (hc : pool.cells[i]? = some ⟨init, some value⟩) : pool.readCell? i = some (value, pool) := by
  rw [readCell?, hc]
  rfl

/-- Reading a cell that computes its value runs it, once. -/
theorem readCell?_of_compute {value : Thunk α}
    (hc : pool.cells[i]? = some ⟨some (.compute value), none⟩) :
    pool.readCell? i = some (value.get, (pool.start i).store i value.get) := by
  rw [readCell?, hc]
  rfl

theorem readCell?_of_wrap_fixed {f : α → α}
    (hc : pool.cells[i]? = some ⟨some (.wrap f (.fixed a)), none⟩) :
    pool.readCell? i = some (f a, (pool.start i).store i (f a)) := by
  rw [readCell?, hc]
  rfl

/-- Reading a cell that wraps an older one reads that one first. -/
theorem readCell?_of_wrap_cell {f : α → α}
    (hc : pool.cells[i]? = some ⟨some (.wrap f (.cell j)), none⟩) (hlt : j < i)
    (hread : (pool.start i).readCell? j = some (a, pool')) :
    pool.readCell? i = some (f a, pool'.store i (f a)) := by
  rw [readCell?, hc]
  simp [hlt, hread]

end Equations

theorem Keeps.start (hk : Keeps made pool i) (hne : i ≠ j) : Keeps made (pool.start j) i := by
  cases hk with
  | waiting hm hc hnot =>
    refine .waiting hm ((cells_start_of_ne pool hne).trans hc) ?_
    intro hi
    rcases List.mem_cons.mp hi with hi | hi
    · exact hne hi
    · exact hnot hi
  | done hs hc hran =>
    refine .done hs ((cells_start_of_ne pool hne).trans hc) fun k hk => ?_
    exact List.mem_cons_of_mem j (hran k hk)

namespace Filled

/-- A cell that has run is as full as it can be. -/
theorem of_done (hg : Grounded made) (hkeeps : ∀ k ≤ i, Keeps made pool k)
    (hran : ∀ k, RestsOn made (.cell i) k → k ∈ pool.runs) :
    Filled made (.cell i) pool pool where
  length := rfl
  others _ _ := rfl
  filled k hk := (hkeeps k (hg.restsOn_le hk rfl)).ran_of_mem (hran k hk)
  runs := by
    refine ⟨[], rfl, List.nodup_nil, fun k => ⟨nofun, ?_⟩⟩
    rintro ⟨hk, hnot⟩
    exact absurd (hran k hk) hnot

/-- A cell that rests on no other is filled by its own initializer. -/
theorem of_self {cell : Cell α} (hc : pool.cells[i]? = some cell) (hnot : i ∉ pool.runs)
    (hs : StandsFor made (.cell i) a) (hself : ∀ k, RestsOn made (.cell i) k ↔ k = i) :
    Filled made (.cell i) pool ((pool.start i).store i a) where
  length := by simp [store, start]
  others k hk := by
    have hne : k ≠ i := fun he => hk ((hself k).mpr he)
    rw [cells_store_of_ne _ hne, cells_start_of_ne _ hne]
  filled k hk := by
    obtain rfl := (hself k).mp hk
    exact ⟨a, hs, cells_store_start hc a⟩
  runs := by
    refine ⟨[i], rfl, by simp, fun k => ?_⟩
    rw [List.mem_singleton, hself]
    constructor
    · rintro rfl
      exact ⟨rfl, hnot⟩
    · rintro ⟨hk, -⟩
      exact hk

/-- A cell that wraps another one is filled once the other one is. -/
theorem of_inner {cell : Cell α} {f : α → α} (hc : pool.cells[i]? = some cell)
    (hnot : i ∉ pool.runs) (hs : StandsFor made (.cell i) (f a))
    (hinner : ∀ k, RestsOn made (.cell i) k ↔ k = i ∨ RestsOn made (.cell j) k)
    (hi : ¬ RestsOn made (.cell j) i) (hf : Filled made (.cell j) (pool.start i) pool') :
    Filled made (.cell i) pool (pool'.store i (f a)) where
  length := by
    have hlen := hf.length
    simp only [store, start, List.length_modify] at hlen ⊢
    exact hlen
  others k hk := by
    rw [hinner, not_or] at hk
    rw [cells_store_of_ne _ hk.1, hf.others k hk.2, cells_start_of_ne _ hk.1]
  filled k hk := by
    -- The cell itself was started before the inner one was read, and is filled last.
    by_cases hki : k = i
    · subst hki
      refine ⟨f a, hs, ?_⟩
      have hstart := hf.others k hi
      simp only [start, List.getElem?_modify_eq, hc] at hstart
      simp [store, List.getElem?_modify_eq, hstart]
    · rw [cells_store_of_ne _ hki]
      exact hf.filled k (((hinner k).mp hk).resolve_left hki)
  runs := by
    obtain ⟨new, hruns, hnodup, hmem⟩ := hf.runs
    refine ⟨new ++ [i], ?_, ?_, fun k => ?_⟩
    · change pool'.runs = new ++ [i] ++ pool.runs
      rw [hruns, List.append_assoc]
      rfl
    · rw [List.nodup_append]
      refine ⟨hnodup, by simp, ?_⟩
      rintro k hk l hl rfl
      obtain rfl := List.mem_singleton.mp hl
      exact hi ((hmem k).mp hk).1
    · have hstart : k ∉ (pool.start i).runs ↔ k ≠ i ∧ k ∉ pool.runs := by
        rw [← not_or, not_congr]
        exact List.mem_cons
      rw [List.mem_append, List.mem_singleton, hmem, hinner, hstart]
      constructor
      · rintro (⟨hk, -, hruns⟩ | rfl)
        · exact ⟨.inr hk, hruns⟩
        · exact ⟨.inl rfl, hnot⟩
      · rintro ⟨rfl | hk, hruns⟩
        · exact .inr rfl
        · refine .inl ⟨hk, ?_, hruns⟩
          rintro rfl
          exact hi hk

end Filled

/-- Reading a cell comes to the value that it stands for, and fills what it rests on. -/
theorem readCell?_filled (hg : Grounded made) (hkeeps : ∀ k ≤ i, Keeps made pool k) :
    ∃ a pool', pool.readCell? i = some (a, pool') ∧ StandsFor made (.cell i) a ∧
      Filled made (.cell i) pool pool' := by
  -- The induction is on the cell: what a cell wraps was made before it.
  induction i using Nat.strongRecOn generalizing pool with
  | _ i ih =>
    cases hkeeps i (Nat.le_refl i) with
    | done hs hc hran => exact ⟨_, pool, readCell?_of_value hc, hs, .of_done hg hkeeps hran⟩
    | @waiting init hm hc hnot =>
      cases init with
      | compute value =>
        have hs : StandsFor made (.cell i) value.get := .computed hm
        exact ⟨_, _, readCell?_of_compute hc, hs,
          .of_self hc hnot hs fun k => hg.restsOn_iff_of_compute hm⟩
      | wrap f inner =>
        cases inner with
        | fixed b =>
          have hs : StandsFor made (.cell i) (f b) := .wrapped hm (.fixed b)
          refine ⟨_, _, readCell?_of_wrap_fixed hc, hs, .of_self hc hnot hs fun k => ?_⟩
          rw [hg.restsOn_iff_of_wrap hm, or_iff_left not_restsOn_fixed]
        | cell j =>
          have hlt : j < i := hg.earlier hm
          have hstarted : ∀ k ≤ j, Keeps made (pool.start i) k := by
            intro k hk
            exact (hkeeps k (by omega)).start (by omega)
          obtain ⟨b, pool', hread, hb, hf⟩ := ih j hlt hstarted
          have hs : StandsFor made (.cell i) (f b) := .wrapped hm hb
          have hi : ¬ RestsOn made (.cell j) i := by
            intro hr
            have hle := hg.restsOn_le hr rfl
            omega
          exact ⟨_, _, readCell?_of_wrap_cell hc hlt hread, hs,
            .of_inner hc hnot hs (fun k => hg.restsOn_iff_of_wrap hm) hi hf⟩

/-- The handle is fixed, or on a cell of the pool. -/
def Holds (pool : Pool α) : Handle α → Prop
  | .fixed _ => True
  | .cell i => i < pool.cells.length

theorem Holds.of_length (hh : pool.Holds h) (hlen : pool'.cells.length = pool.cells.length) :
    pool'.Holds h := by
  cases h with
  | fixed a => trivial
  | cell i => exact Nat.lt_of_lt_of_eq hh hlen.symm

theorem length_add (pool : Pool α) (init : Initializer α) :
    (pool.add init).2.cells.length = pool.cells.length + 1 := by
  simp [add]

theorem Holds.add (hh : pool.Holds h) (init : Initializer α) : (pool.add init).2.Holds h := by
  cases h with
  | fixed a => trivial
  | cell i =>
    change i < (pool.add init).2.cells.length
    rw [length_add]
    exact Nat.lt_add_right 1 hh

theorem holds_add (pool : Pool α) (init : Initializer α) :
    (pool.add init).2.Holds (.cell pool.cells.length) := by
  change _ < (pool.add init).2.cells.length
  rw [length_add]
  exact Nat.lt_succ_self _

/-- A pool of cells that were made in order, each with the initializer it was made with or with the
value that it stands for; no cell has run twice. -/
structure Sound (made : Nat → Initializer α → Prop) (pool : Pool α) : Prop where
  grounded : Grounded made
  isCell : ∀ {i init}, made i init → i < pool.cells.length
  keeps : ∀ i < pool.cells.length, Keeps made pool i
  nodup : pool.runs.Nodup
  isCell_of_run : ∀ i ∈ pool.runs, i < pool.cells.length

/-- After a read the cells that were run are those from before and those that the value rests on. -/
theorem Filled.mem_runs_iff (hf : Filled made h pool pool') :
    i ∈ pool'.runs ↔ i ∈ pool.runs ∨ RestsOn made h i := by
  obtain ⟨new, hruns, -, hnew⟩ := hf.runs
  rw [hruns, List.mem_append, hnew]
  by_cases hi : i ∈ pool.runs <;> simp [hi]

theorem Filled.refl_fixed (a : α) : Filled made (.fixed a) pool pool where
  length := rfl
  others _ _ := rfl
  filled _ hi := (not_restsOn_fixed hi).elim
  runs := ⟨[], rfl, List.nodup_nil, fun _ => ⟨nofun, fun hi => (not_restsOn_fixed hi.1).elim⟩⟩

namespace Sound

theorem empty : Sound (fun _ _ => False) (Pool.empty : Pool α) where
  grounded := ⟨fun hm => hm.elim, fun hm => hm.elim⟩
  isCell hm := hm.elim
  keeps _ hi := absurd hi (Nat.not_lt_zero _)
  nodup := List.nodup_nil
  isCell_of_run _ hi := absurd hi List.not_mem_nil

/-- A handle of the pool rests on cells of the pool. -/
theorem isCell_of_restsOn (hs : Sound made pool) (hh : pool.Holds h) (hr : RestsOn made h i) :
    i < pool.cells.length := by
  cases h with
  | fixed a => exact (not_restsOn_fixed hr).elim
  | cell j => exact Nat.lt_of_le_of_lt (hs.grounded.restsOn_le hr rfl) hh

/-- A cell has run exactly when its value is there. -/
theorem isEvaluated_cell (hs : Sound made pool) :
    pool.isEvaluated (.cell i) = true ↔ i ∈ pool.runs := by
  by_cases hi : i < pool.cells.length
  · cases hs.keeps i hi with
    | waiting _ hc hnot => simp [isEvaluated, peek?, hc, hnot]
    | done _ hc hran => simp [isEvaluated, peek?, hc, hran i (.self i)]
  · have hnot : i ∉ pool.runs := fun hrun => hi (hs.isCell_of_run i hrun)
    have hc : pool.cells[i]? = none := List.getElem?_eq_none (Nat.le_of_not_lt hi)
    simp [isEvaluated, peek?, hc, hnot]

/-- There is always something to read: no cell is without a value and without an initializer. -/
theorem read?_filled (hs : Sound made pool) (hh : pool.Holds h) :
    ∃ a pool', pool.read? h = some (a, pool') ∧ StandsFor made h a ∧ Filled made h pool pool' := by
  cases h with
  | fixed a => exact ⟨a, pool, rfl, .fixed a, .refl_fixed a⟩
  | cell i =>
    refine readCell?_filled hs.grounded fun k hk => ?_
    exact hs.keeps k (Nat.lt_of_le_of_lt hk hh)

/-- Reading leaves a sound pool sound. -/
theorem filled (hs : Sound made pool) (hh : pool.Holds h) (hf : Filled made h pool pool') :
    Sound made pool' where
  grounded := hs.grounded
  isCell hm := hf.length ▸ hs.isCell hm
  keeps i hi := by
    rw [hf.length] at hi
    by_cases hr : RestsOn made h i
    · obtain ⟨a, ha, hc⟩ := hf.filled i hr
      exact .done ha hc fun j hj => hf.mem_runs_iff.mpr (.inr (hr.trans hj))
    · cases hs.keeps i hi with
      | waiting hm hc hnot =>
        refine .waiting hm ((hf.others i hr).trans hc) fun hi => ?_
        exact (hf.mem_runs_iff.mp hi).elim hnot hr
      | done ha hc hran =>
        refine .done ha ((hf.others i hr).trans hc) fun j hj => ?_
        exact hf.mem_runs_iff.mpr (.inl (hran j hj))
  nodup := by
    obtain ⟨new, hruns, hnodup, hnew⟩ := hf.runs
    rw [hruns, List.nodup_append]
    refine ⟨hnodup, hs.nodup, ?_⟩
    rintro i hi _ hrun rfl
    exact ((hnew i).mp hi).2 hrun
  isCell_of_run i hi := by
    rw [hf.length]
    rcases hf.mem_runs_iff.mp hi with hi | hi
    · exact hs.isCell_of_run i hi
    · exact hs.isCell_of_restsOn hh hi

section Adding

/-! A cell is added, and wraps nothing but what is there already. -/

variable {init : Initializer α}
  (hadd : ∀ i x, made' i x ↔ made i x ∨ i = pool.cells.length ∧ x = init)
include hadd

/-- A new cell changes nothing for the handles that were there. -/
theorem restsOn_add (hs : Sound made pool) (hh : pool.Holds h) :
    RestsOn made' h i ↔ RestsOn made h i := by
  refine ⟨fun hr => ?_, .mono fun i x hm => (hadd i x).mpr (.inl hm)⟩
  induction hr with
  | self i => exact .self i
  | @inner i j f inner hm _ ih =>
    have hold : made i (.wrap f inner) := by
      rcases (hadd _ _).mp hm with hm | ⟨rfl, -⟩
      · exact hm
      · exact absurd hh (Nat.lt_irrefl _)
    refine .inner hold (ih ?_)
    cases inner with
    | fixed a => trivial
    | cell k => exact Nat.lt_trans (hs.grounded.earlier hold) hh

theorem grounded_add (hs : Sound made pool) (hinit : ∀ f h, init = .wrap f h → pool.Holds h) :
    Grounded made' where
  unique {i x y} hx hy := by
    rcases (hadd i x).mp hx with hx | ⟨hi, rfl⟩
    · rcases (hadd i y).mp hy with hy | ⟨hi, -⟩
      · exact hs.grounded.unique hx hy
      · exact absurd (hs.isCell hx) (by omega)
    · rcases (hadd i y).mp hy with hy | ⟨-, rfl⟩
      · exact absurd (hs.isCell hy) (by omega)
      · rfl
  earlier {i f j} hm := by
    rcases (hadd _ _).mp hm with hm | ⟨rfl, hx⟩
    · exact hs.grounded.earlier hm
    · exact hinit f (.cell j) hx.symm

/-- Adding a cell leaves a sound pool sound. -/
theorem add (hs : Sound made pool) (hinit : ∀ f h, init = .wrap f h → pool.Holds h) :
    Sound made' (pool.add init).2 where
  grounded := hs.grounded_add hadd hinit
  isCell {i x} hm := by
    rw [length_add]
    rcases (hadd i x).mp hm with hm | ⟨rfl, -⟩
    · exact Nat.lt_add_right 1 (hs.isCell hm)
    · exact Nat.lt_succ_self _
  keeps i hi := by
    have hsub : ∀ i x, made i x → made' i x := fun i x hm => (hadd i x).mpr (.inl hm)
    rw [length_add] at hi
    rcases Nat.lt_succ_iff_lt_or_eq.mp hi with hlt | rfl
    · have hcell : (pool.add init).2.cells[i]? = pool.cells[i]? := List.getElem?_append_left hlt
      cases hs.keeps i hlt with
      | waiting hm hc hnot => exact .waiting (hsub _ _ hm) (hcell.trans hc) hnot
      | done ha hc hran =>
        refine .done (ha.mono hsub) (hcell.trans hc) fun j hj => ?_
        exact hran j ((hs.restsOn_add hadd (show pool.Holds (.cell i) from hlt)).mp hj)
    · refine .waiting ((hadd _ _).mpr (.inr ⟨rfl, rfl⟩)) List.getElem?_concat_length fun hrun => ?_
      exact absurd (hs.isCell_of_run _ hrun) (Nat.lt_irrefl _)
  nodup := hs.nodup
  isCell_of_run i hi := by
    rw [length_add]
    exact Nat.lt_add_right 1 (hs.isCell_of_run i hi)

end Adding

end Sound

end Pool

end Conform
