import Conform.Proofs.Calls
import Conform.Value.Supply
import Mathlib.Data.Finset.Card
import Mathlib.Data.List.Induction

/-! Repeated keys: what is collected under a key stands where the key came first, and is what the
key was given last. So it is with the entries of objects, and with the properties that checkers of
objects look at. -/

namespace Conform

namespace Entries

variable {α : Type} {pairs entries : List (String × α)} {key : String} {value : α}

/-- The value is the last that the key is given. -/
def GivesLast (pairs : List (String × α)) (key : String) (value : α) : Prop :=
  ∃ before after, pairs = before ++ (key, value) :: after ∧ key ∉ after.map (·.1)

/-- The entries have each key once, in the order in which the keys first come, and under it what the
key is given last. -/
structure Collects (pairs entries : List (String × α)) : Prop where
  keys : entries.map (·.1) = (pairs.map (·.1)).eraseDups
  distinct : (entries.map (·.1)).Nodup
  last : ∀ entry ∈ entries, GivesLast pairs entry.1 entry.2

/-- The last value is the first from the other end. -/
theorem givesLast_iff : GivesLast pairs key value ↔ get? pairs.reverse key = some value := by
  rw [get?, Option.map_eq_some_iff]
  constructor
  · rintro ⟨before, after, rfl, hafter⟩
    refine ⟨(key, value), List.find?_eq_some_iff_append.mpr ⟨decide_eq_true rfl, after.reverse,
      before.reverse, by simp, fun entry hentry => ?_⟩, rfl⟩
    have hne : entry.1 ≠ key := by
      rintro rfl
      exact hafter (List.mem_map_of_mem (List.mem_reverse.mp hentry))
    simpa using hne
  · rintro ⟨⟨key', value'⟩, hfind, rfl⟩
    obtain ⟨hkey, after, before, hpairs, hafter⟩ := List.find?_eq_some_iff_append.mp hfind
    obtain rfl : key' = key := of_decide_eq_true hkey
    refine ⟨before.reverse, after.reverse, ?_, fun hmem => ?_⟩
    · simpa using congrArg List.reverse hpairs
    · obtain ⟨entry, hentry, rfl⟩ := List.mem_map.mp hmem
      simpa using hafter entry (List.mem_reverse.mp hentry)

theorem ofList_append_singleton (pairs : List (String × α)) (pair : String × α) :
    ofList (pairs ++ [pair]) = insert (ofList pairs) pair.1 pair.2 :=
  List.foldl_concat ..

theorem eraseDups_append_singleton (keys : List String) (key : String) :
    (keys ++ [key]).eraseDups =
      if key ∈ keys then keys.eraseDups else keys.eraseDups ++ [key] := by
  rw [List.eraseDups_append, List.removeAll, List.filter_singleton]
  by_cases h : key ∈ keys
  · simp [h]
  · simp [h, List.eraseDups_cons]

/-- The keys stand in the order in which they first came. -/
theorem map_fst_ofList (pairs : List (String × α)) :
    (ofList pairs).map (·.1) = (pairs.map (·.1)).eraseDups := by
  induction pairs using List.reverseRecOn with
  | nil => rfl
  | append_singleton pairs pair ih =>
    rw [ofList_append_singleton, map_fst_insert, ih, List.map_append, List.map_singleton,
      eraseDups_append_singleton]
    simp only [List.mem_eraseDups]

theorem nodup_map_fst_ofList (pairs : List (String × α)) : ((ofList pairs).map (·.1)).Nodup := by
  induction pairs using List.reverseRecOn with
  | nil => exact List.nodup_nil
  | append_singleton pairs pair ih =>
    rw [ofList_append_singleton, map_fst_insert]
    split
    · exact ih
    · exact List.concat_eq_append ▸ ih.concat ‹_›

/-- Under a key there is what it was given last. -/
theorem get?_ofList (pairs : List (String × α)) (key : String) :
    get? (ofList pairs) key = get? pairs.reverse key := by
  induction pairs using List.reverseRecOn with
  | nil => rfl
  | append_singleton pairs pair ih =>
    rw [ofList_append_singleton, List.reverse_append, List.reverse_singleton,
      List.singleton_append, get?_cons, ← ih]
    by_cases h : pair.1 = key
    · rw [if_pos h, ← h, get?_insert_self]
    · rw [if_neg h, get?_insert_of_ne _ _ h]

/-- Collecting keeps each key once, where it came first, with what it was given last. -/
theorem collects_ofList (pairs : List (String × α)) : Collects pairs (ofList pairs) where
  keys := map_fst_ofList pairs
  distinct := nodup_map_fst_ofList pairs
  last entry hentry := by
    rw [givesLast_iff, ← get?_ofList, get?_eq_some_iff (nodup_map_fst_ofList pairs)]
    exact hentry

example : ofList [("a", 1), ("b", 2), ("a", 3)] = [("a", 3), ("b", 2)] := by decide

namespace Collects

theorem mem_keys_iff (h : Collects pairs entries) :
    key ∈ entries.map (·.1) ↔ key ∈ pairs.map (·.1) := by
  rw [h.keys, List.mem_eraseDups]

theorem length_eq (h : Collects pairs entries) :
    entries.length = (pairs.map (·.1)).toFinset.card := by
  rw [← List.length_map (·.1), ← List.toFinset_card_of_nodup h.distinct]
  congr 1
  ext key
  simp only [List.mem_toFinset, h.mem_keys_iff]

theorem givesLast_of_get? (h : Collects pairs entries) (hvalue : get? entries key = some value) :
    GivesLast pairs key value :=
  h.last (key, value) (mem_of_get?_eq_some hvalue)

end Collects

end Entries

/-- What has been collected already stays as it is when it is collected once more. -/
theorem ObjectOptions.ofList_of_collects {α : Type} {pairs entries : List (String × α)}
    (h : Entries.Collects pairs entries) (nullable : Bool) :
    ofList nullable entries = ⟨nullable, entries⟩ := by
  rw [ofList_eq, Entries.ofList_of_nodup _ h.distinct]

namespace Validator

variable {v : Value}

theorem events_properties (properties : List (String × Validator)) :
    (object.properties properties v).events =
      (upToFailure (fun p => (p.2.validate (v.property p.1)).value) properties).flatMap
        fun p => (p.2.validate (v.property p.1)).events := by
  induction properties with
  | nil => rfl
  | cons p rest ih =>
    refine Recorded.events_upToFailure (fun p => p.2.validate (v.property p.1)) p ?_
      (fun _ => ih) ?_
    · rfl
    · exact fun _ => rfl

theorem events_object (options : ObjectOptions Validator) :
    ((object options).validate v).events =
      if v.isObject then
        (upToFailure (fun p => (p.2.validate (v.property p.1)).value) options.properties).flatMap
          fun p => (p.2.validate (v.property p.1)).events
      else [] := by
  cases hv : v.isObject with
  | true =>
    obtain ⟨htype, hnull⟩ := Value.isObject_iff.mp hv
    rw [if_pos rfl, ← events_properties]
    simp [object, htype, hnull]
  | false =>
    rw [if_neg Bool.false_ne_true]
    by_cases htype : v.datatype = .object
    · have hnull : v.isNull = true := by simpa [Value.isObject, htype] using hv
      simp [object, htype, hnull]
    · simp [object, htype]

end Validator

open Entries in
/-- What an object or a checker of objects is made with has each key once, where it came first, with
what it was given last. So a key is read, and the checks of properties run, one for each name and
none after the first that fails; the checker is the one that is made with no name repeated. -/
theorem first_place_and_last_value :
    (∀ (cls : Option Class) (pairs : List (String × Value)) (next : Nat), ∃ entries,
      (Supply.newObject cls pairs).run next = (.object next cls entries, next + 1) ∧
        Collects pairs entries ∧ entries.length = (pairs.map (·.1)).toFinset.card ∧
        ∀ key,
          (∃ value, GivesLast pairs key value ∧ get? entries key = some value ∧
            hasKey entries key = true ∧ (Value.object next cls entries).property key = value) ∨
          key ∉ pairs.map (·.1) ∧ get? entries key = none ∧ hasKey entries key = false ∧
            (Value.object next cls entries).property key = .undefined) ∧
    (∀ (nullable : Bool) (properties : List (String × Validator)), ∃ entries,
      Collects properties entries ∧
        Validator.object (.ofList nullable properties) = .object (.ofList nullable entries) ∧
        ∀ v, ((Validator.object (.ofList nullable properties)).validate v).events =
          if v.isObject then
            (upToFailure (fun p => (p.2.validate (v.property p.1)).value) entries).flatMap
              fun p => (p.2.validate (v.property p.1)).events
          else []) ∧
    ∀ (nullable : Bool) (properties : List (String × Inspector)), ∃ entries,
      Collects properties entries ∧
        Inspector.object (.ofList nullable properties) = .object (.ofList nullable entries) ∧
        ∀ v, ((Inspector.object (.ofList nullable properties)).run v).events =
          if v.isObject then
            (upToFailure (fun p => (p.2.run (v.property p.1)).value.passed) entries).flatMap
              fun p => (p.2.inspect (v.property p.1)).events
          else [] := by
  refine ⟨fun cls pairs next => ?_, fun nullable properties => ?_, fun nullable properties => ?_⟩
  · have hcollects := collects_ofList pairs
    refine ⟨ofList pairs, rfl, hcollects, hcollects.length_eq, fun key => ?_⟩
    rw [hasKey_eq_isSome_get?]
    cases hvalue : get? (ofList pairs) key with
    | some value =>
      refine .inl ⟨value, hcollects.givesLast_of_get? hvalue, rfl, rfl, ?_⟩
      rw [Value.property, hvalue, Option.getD_some]
    | none =>
      refine .inr ⟨?_, rfl, rfl, ?_⟩
      · rw [← hcollects.mem_keys_iff]
        exact get?_eq_none_iff.mp hvalue
      · rw [Value.property, hvalue, Option.getD_none]
  · have hcollects := collects_ofList properties
    refine ⟨_, hcollects, ?_, fun v => ?_⟩
    · rw [ObjectOptions.ofList_of_collects hcollects, ObjectOptions.ofList_eq]
    · rw [ObjectOptions.ofList_eq, Validator.events_object]
  · have hcollects := collects_ofList properties
    refine ⟨_, hcollects, ?_, fun v => ?_⟩
    · rw [ObjectOptions.ofList_of_collects hcollects, ObjectOptions.ofList_eq]
    · rw [ObjectOptions.ofList_eq, Inspector.events_object]

end Conform
