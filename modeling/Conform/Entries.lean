/-! Entries under distinct keys, in the order in which the keys first came. -/

namespace Conform.Entries

variable {α : Type}

/-- Gives `key` its value in place, or at the end if the key is new. -/
def insert (entries : List (String × α)) (key : String) (value : α) : List (String × α) :=
  match entries with
  | [] => [(key, value)]
  | entry :: rest =>
    if entry.1 = key then (key, value) :: rest else entry :: insert rest key value

/-- A repeated key keeps its first place and takes its last value. -/
def ofList (pairs : List (String × α)) : List (String × α) :=
  pairs.foldl (fun entries pair => insert entries pair.1 pair.2) []

def get? (entries : List (String × α)) (key : String) : Option α :=
  (entries.find? fun entry => entry.1 = key).map (·.2)

def hasKey (entries : List (String × α)) (key : String) : Bool :=
  entries.any fun entry => entry.1 = key

@[simp] theorem get?_insert_self (entries : List (String × α)) (key : String) (value : α) :
    get? (insert entries key value) key = some value := by
  induction entries with
  | nil => simp [insert, get?]
  | cons entry rest ih =>
    by_cases h : entry.1 = key
    · simp [insert, get?, h]
    · simpa [insert, get?, h] using ih

theorem get?_insert_of_ne (entries : List (String × α)) {key other : String} (value : α)
    (hne : key ≠ other) : get? (insert entries key value) other = get? entries other := by
  induction entries with
  | nil => simp [insert, get?, hne]
  | cons entry rest ih =>
    by_cases h : entry.1 = key
    · simp [insert, get?, h, hne]
    · by_cases ho : entry.1 = other
      · simp [insert, get?, h, decide_eq_true ho]
      · simpa [insert, get?, h, ho] using ih

theorem get?_cons (entry : String × α) (rest : List (String × α)) (key : String) :
    get? (entry :: rest) key = if entry.1 = key then some entry.2 else get? rest key := by
  by_cases h : entry.1 = key <;> simp [get?, h]

theorem get?_eq_none_iff {entries : List (String × α)} {key : String} :
    get? entries key = none ↔ key ∉ entries.map (·.1) := by
  induction entries with
  | nil => simp [get?]
  | cons entry rest ih =>
    rw [get?_cons, List.map_cons, List.mem_cons, not_or, ← ih]
    by_cases h : entry.1 = key
    · simp [h]
    · simp [h, Ne.symm h]

theorem mem_of_get?_eq_some {entries : List (String × α)} {key : String} {value : α}
    (h : get? entries key = some value) : (key, value) ∈ entries := by
  induction entries with
  | nil => simp [get?] at h
  | cons entry rest ih =>
    rw [get?_cons] at h
    split at h
    · next heq =>
      obtain rfl : entry.2 = value := Option.some.inj h
      exact heq ▸ List.mem_cons_self
    · exact List.mem_cons_of_mem _ (ih h)

theorem hasKey_eq_isSome_get? (entries : List (String × α)) (key : String) :
    hasKey entries key = (get? entries key).isSome := by
  rw [hasKey, get?, Option.isSome_map, List.isSome_find?]

theorem get?_eq_some_iff {entries : List (String × α)} {key : String} {value : α}
    (hdistinct : (entries.map (·.1)).Nodup) :
    get? entries key = some value ↔ (key, value) ∈ entries := by
  refine ⟨mem_of_get?_eq_some, fun hmem => ?_⟩
  induction entries with
  | nil => exact absurd hmem List.not_mem_nil
  | cons entry rest ih =>
    obtain ⟨hnew, hrest⟩ := List.nodup_cons.mp hdistinct
    rw [get?_cons]
    rcases List.mem_cons.mp hmem with rfl | hmem
    · exact if_pos rfl
    · have hne : entry.1 ≠ key := by
        rintro rfl
        exact hnew (List.mem_map.mpr ⟨_, hmem, rfl⟩)
      rw [if_neg hne, ih hrest hmem]

theorem get?_perm {entries entries' : List (String × α)} (h : entries.Perm entries')
    (hdistinct : (entries.map (·.1)).Nodup) (key : String) :
    get? entries key = get? entries' key := by
  have hdistinct' : (entries'.map (·.1)).Nodup := (h.map _).nodup_iff.mp hdistinct
  refine Option.ext fun value => ?_
  rw [get?_eq_some_iff hdistinct, get?_eq_some_iff hdistinct', h.mem_iff]

/-- Keys keep their places: only a new one is added, at the end. -/
theorem map_fst_insert (entries : List (String × α)) (key : String) (value : α) :
    (insert entries key value).map (·.1) =
      if key ∈ entries.map (·.1) then entries.map (·.1) else entries.map (·.1) ++ [key] := by
  induction entries with
  | nil => simp [insert]
  | cons entry rest ih =>
    by_cases h : entry.1 = key
    · simp [insert, h]
    · have hk : key ≠ entry.1 := fun he => h he.symm
      simp only [insert, h, if_false, List.map_cons, ih, List.mem_cons, hk, false_or]
      split <;> simp

theorem map_insert {β : Type} (f : α → β) (entries : List (String × α)) (key : String)
    (value : α) :
    (insert entries key value).map (fun entry => (entry.1, f entry.2)) =
      insert (entries.map fun entry => (entry.1, f entry.2)) key (f value) := by
  induction entries with
  | nil => rfl
  | cons entry rest ih =>
    by_cases h : entry.1 = key
    · simp [insert, h]
    · simp [insert, h, ih]

theorem insert_of_not_mem (entries : List (String × α)) {key : String} (value : α)
    (h : key ∉ entries.map (·.1)) : insert entries key value = entries ++ [(key, value)] := by
  induction entries with
  | nil => rfl
  | cons entry rest ih =>
    rw [List.map_cons, List.mem_cons, not_or] at h
    rw [insert, if_neg (Ne.symm h.1), ih h.2, List.cons_append]

theorem mem_of_mem_insert {entries : List (String × α)} {key : String} {value : α}
    {entry : String × α} (h : entry ∈ insert entries key value) :
    entry = (key, value) ∨ entry ∈ entries := by
  induction entries with
  | nil => exact .inl (List.mem_singleton.mp h)
  | cons first rest ih =>
    rw [insert] at h
    split at h
    · rcases List.mem_cons.mp h with rfl | hrest
      · exact .inl rfl
      · exact .inr (List.mem_cons_of_mem _ hrest)
    · rcases List.mem_cons.mp h with rfl | hrest
      · exact .inr List.mem_cons_self
      · exact (ih hrest).imp_right (List.mem_cons_of_mem _)

theorem mem_of_mem_foldl_insert {entries pairs : List (String × α)} {entry : String × α}
    (h : entry ∈ pairs.foldl (fun entries pair => insert entries pair.1 pair.2) entries) :
    entry ∈ entries ∨ entry ∈ pairs := by
  induction pairs generalizing entries with
  | nil => exact .inl h
  | cons pair rest ih =>
    rcases ih h with hinsert | hrest
    · rcases mem_of_mem_insert hinsert with rfl | hentries
      · exact .inr List.mem_cons_self
      · exact .inl hentries
    · exact .inr (List.mem_cons_of_mem _ hrest)

/-- Nothing is under a key that was not put there. -/
theorem mem_of_mem_ofList {pairs : List (String × α)} {entry : String × α}
    (h : entry ∈ ofList pairs) : entry ∈ pairs :=
  (mem_of_mem_foldl_insert h).resolve_left List.not_mem_nil

theorem filter_insert (entries : List (String × α)) (key name : String) (value : α) :
    (insert entries key value).filter (·.1 ≠ name) =
      if key = name then entries.filter (·.1 ≠ name)
      else insert (entries.filter (·.1 ≠ name)) key value := by
  induction entries with
  | nil => by_cases h : key = name <;> simp [insert, h]
  | cons entry rest ih =>
    rw [insert]
    by_cases hentry : entry.1 = key
    · by_cases h : key = name <;> simp [insert, hentry, h]
    · rw [if_neg hentry]
      by_cases hname : entry.1 = name
      · have hne : key ≠ name := fun h => hentry (hname.trans h.symm)
        simpa [hname, hne] using ih
      · by_cases h : key = name
        · simpa [hname, h] using ih
        · simpa [insert, hentry, hname, h] using ih

/-- Leaving a key out before entries are collected is leaving it out afterwards. -/
theorem ofList_filter (pairs : List (String × α)) (name : String) :
    ofList (pairs.filter (·.1 ≠ name)) = (ofList pairs).filter (·.1 ≠ name) := by
  have hfold (entries : List (String × α)) :
      (pairs.filter (·.1 ≠ name)).foldl (fun entries pair => insert entries pair.1 pair.2)
          (entries.filter (·.1 ≠ name)) =
        (pairs.foldl (fun entries pair => insert entries pair.1 pair.2) entries).filter
          (·.1 ≠ name) := by
    induction pairs generalizing entries with
    | nil => rfl
    | cons pair rest ih =>
      rw [List.foldl_cons, ← ih, filter_insert]
      by_cases h : pair.1 = name <;> simp [h]
  exact hfold []

theorem foldl_insert_of_nodup (entries pairs : List (String × α))
    (h : ((entries ++ pairs).map (·.1)).Nodup) :
    pairs.foldl (fun entries pair => insert entries pair.1 pair.2) entries = entries ++ pairs := by
  induction pairs generalizing entries with
  | nil => simp
  | cons pair rest ih =>
    have hnew : pair.1 ∉ entries.map (·.1) := by
      rw [List.map_append, List.map_cons, List.nodup_append] at h
      intro hm
      exact h.2.2 _ hm _ (by simp) rfl
    rw [List.foldl_cons, insert_of_not_mem _ _ hnew, ih _ (by simpa using h)]
    simp

/-- Distinct keys keep their entries as they are. -/
theorem ofList_of_nodup (pairs : List (String × α)) (h : (pairs.map (·.1)).Nodup) :
    ofList pairs = pairs := foldl_insert_of_nodup [] pairs h

theorem map_ofList {β : Type} (f : α → β) (pairs : List (String × α)) :
    (ofList pairs).map (fun entry => (entry.1, f entry.2)) =
      ofList (pairs.map fun entry => (entry.1, f entry.2)) := by
  have hfold (entries : List (String × α)) :
      (pairs.foldl (fun entries pair => insert entries pair.1 pair.2) entries).map
          (fun entry => (entry.1, f entry.2)) =
        (pairs.map fun entry => (entry.1, f entry.2)).foldl
          (fun entries pair => insert entries pair.1 pair.2)
          (entries.map fun entry => (entry.1, f entry.2)) := by
    induction pairs generalizing entries with
    | nil => rfl
    | cons pair rest ih =>
      rw [List.foldl_cons, ih, map_insert]
      rfl
  exact hfold []

/-- What is under a key after one value is replaced was there before, or is the new value. -/
theorem mem_ofList_replace {pre post : List (String × α)} {key : String} {old new : α}
    {entry : String × α} (h : entry ∈ ofList (pre ++ (key, new) :: post)) :
    entry ∈ ofList (pre ++ (key, old) :: post) ∨
      (key, old) ∈ ofList (pre ++ (key, old) :: post) ∧ entry = (key, new) := by
  -- The entries side by side, as they are before and after.
  let both : List (String × (α × α)) := pre.map (fun p => (p.1, (p.2, p.2))) ++
    (key, (old, new)) :: post.map fun p => (p.1, (p.2, p.2))
  have hold : (ofList both).map (fun p => (p.1, p.2.1)) = ofList (pre ++ (key, old) :: post) := by
    simp [map_ofList (fun p : α × α => p.1), both, Function.comp_def]
  have hnew : (ofList both).map (fun p => (p.1, p.2.2)) = ofList (pre ++ (key, new) :: post) := by
    simp [map_ofList (fun p : α × α => p.2), both, Function.comp_def]
  rw [← hnew] at h
  obtain ⟨p, hp, rfl⟩ := List.mem_map.mp h
  have hmem : (p.1, p.2.1) ∈ ofList (pre ++ (key, old) :: post) := by
    rw [← hold]
    exact List.mem_map_of_mem hp
  rcases List.mem_append.mp (mem_of_mem_ofList hp) with hpre | hpost
  · obtain ⟨q, -, rfl⟩ := List.mem_map.mp hpre
    exact .inl hmem
  · rcases List.mem_cons.mp hpost with rfl | hpost
    · exact .inr ⟨hmem, rfl⟩
    · obtain ⟨q, -, rfl⟩ := List.mem_map.mp hpost
      exact .inl hmem

end Conform.Entries
