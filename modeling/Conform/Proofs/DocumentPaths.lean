import Mathlib.Data.List.Forall2
import Conform.Proofs.ArrayKeys
import Conform.Proofs.Nearest
import Conform.Value.Supply

/-! Values made of documents, and what is read from them along a path. -/

namespace Conform

/-- Entries with the same key and related values. -/
inductive Entries.Under {α β : Type} (R : α → β → Prop) : String × α → String × β → Prop where
  | intro (key : String) {a : α} {b : β} : R a b → Under R (key, a) (key, b)

namespace Entries.Under

variable {α β : Type} {R : α → β → Prop} {xs : List (String × α)} {ys : List (String × β)}

theorem keys_eq (h : List.Forall₂ (Under R) xs ys) : ys.map (·.1) = xs.map (·.1) := by
  induction h with
  | nil => rfl
  | cons hxy _ ih =>
    obtain ⟨key, -⟩ := hxy
    exact congrArg (key :: ·) ih

/-- A lookup that finds something in one list finds its counterpart in the other. -/
theorem exists_get? {key : String} {a : α} (h : List.Forall₂ (Under R) xs ys)
    (ha : get? xs key = some a) : ∃ b, get? ys key = some b ∧ R a b := by
  induction h with
  | nil => cases ha
  | cons hxy _ ih =>
    obtain ⟨name, hab⟩ := hxy
    rw [get?_cons] at ha
    simp only [get?_cons]
    split at ha
    · next hname =>
      cases ha
      exact ⟨_, if_pos hname, hab⟩
    · next hname =>
      rw [if_neg hname]
      exact ih ha

end Entries.Under

/-- Values of the variants that documents are made into, the same up to the identities of the arrays
and objects in them. -/
inductive Value.SameStructure : Value → Value → Prop where
  | null : SameStructure .null .null
  | boolean (b : Bool) : SameStructure (.boolean b) (.boolean b)
  | number (n : Number) : SameStructure (.number n) (.number n)
  | string (s : String) : SameStructure (.string s) (.string s)
  | array (i j : Nat) {xs ys : List Value} : List.Forall₂ SameStructure xs ys →
      SameStructure (.array i xs) (.array j ys)
  | object (i j : Nat) (cls : Option Class) {es fs : List (String × Value)} :
      List.Forall₂ (Entries.Under SameStructure) es fs →
      SameStructure (.object i cls es) (.object j cls fs)

/-- The number that a numeral stands for: a binary64 number is kept, and an integer rounded. -/
inductive Numeral.RoundsTo : Numeral → Number → Prop where
  | integer {k : Int} {x : Number} (fits : Fits64 k) : x.IsNearest k →
      RoundsTo (.integer k fits) x
  | float (x : Number) : RoundsTo (.float x) x

theorem Numeral.roundsTo_number (n : Numeral) : n.RoundsTo n.number := by
  cases n with
  | integer k fits => exact .integer fits (Number.isNearest_ofInt k)
  | float x => exact .float x

namespace Json

/-- Documents as they are kept: objects have distinct keys, and arrays are no longer than indices
reach. -/
inductive IsProper : Json → Prop where
  | null : IsProper .null
  | boolean (b : Bool) : IsProper (.boolean b)
  | number (n : Numeral) : IsProper (.number n)
  | string (s : String) : IsProper (.string s)
  | array {items : List Json} : items.length ≤ indexBound → (∀ d ∈ items, IsProper d) →
      IsProper (.array items)
  | object {members : List (String × Json)} : (members.map (·.1)).Nodup →
      (∀ member ∈ members, IsProper member.2) → IsProper (.object members)

/-- A step from a document into a part of it. -/
inductive Step where
  | member (key : String)
  | element (index : Nat)

/-- The key that a step is read under. -/
def Step.key : Step → String
  | member key => key
  | element index => Nat.repr index

def child? : Json → Step → Option Json
  | object members, .member key => Entries.get? members key
  | array items, .element i => items[i]?
  | _, _ => none

/-- The part of a document that a path leads to. -/
def at? (j : Json) : List Step → Option Json
  | [] => some j
  | step :: rest => (j.child? step).bind (·.at? rest)

def isScalar : Json → Bool
  | array _ | object _ => false
  | _ => true

/-- Steps that lead nowhere. The last two are of the wrong kind, but for the text they are read
under they could still find something. -/
inductive Lacks : Json → Step → Prop where
  | key {members : List (String × Json)} {key : String} : key ∉ members.map (·.1) →
      Lacks (object members) (.member key)
  | index {items : List Json} {i : Nat} : items.length ≤ i → Lacks (array items) (.element i)
  | scalar {d : Json} (step : Step) : d.isScalar = true → Lacks d step
  | text {members : List (String × Json)} {i : Nat} : Nat.repr i ∉ members.map (·.1) →
      Lacks (object members) (.element i)
  | name {items : List Json} {key : String} : key ≠ "length" →
      (∀ i < items.length, key ≠ Nat.repr i) → Lacks (array items) (.member key)

/-- The value of a document, made when `next` is the next identity to be given out. -/
def value (j : Json) (next : Nat) : Value := ((Value.ofJson j).run next).1

/-- Values made of a document, whatever their identities. -/
inductive Becomes : Json → Value → Prop where
  | null : Becomes .null .null
  | boolean (b : Bool) : Becomes (.boolean b) (.boolean b)
  | number (n : Numeral) : Becomes (.number n) (.number n.number)
  | string (s : String) : Becomes (.string s) (.string s)
  | array (id : Nat) {items : List Json} {values : List Value} : List.Forall₂ Becomes items values →
      Becomes (.array items) (.array id values)
  | object (id : Nat) {members : List (String × Json)} {entries : List (String × Value)} :
      List.Forall₂ (Entries.Under Becomes) members entries →
      Becomes (.object members) (.object id none entries)

variable {j d : Json} {v w : Value} {step : Step}

theorem forall₂_items {items : List Json} (h : ∀ d ∈ items, ∀ next, d.Becomes (d.value next))
    (next : Nat) : List.Forall₂ Becomes items ((Value.ofJsonItems items).run next).1 := by
  induction items generalizing next with
  | nil => exact .nil
  | cons d rest ih =>
    have hrest := ih fun e he => h e (List.mem_cons_of_mem d he)
    exact .cons (h d List.mem_cons_self next) (hrest _)

theorem forall₂_members {members : List (String × Json)}
    (h : ∀ member ∈ members, ∀ next, member.2.Becomes (member.2.value next)) (next : Nat) :
    List.Forall₂ (Entries.Under Becomes) members ((Value.ofJsonMembers members).run next).1 := by
  induction members generalizing next with
  | nil => exact .nil
  | cons member rest ih =>
    have hrest := ih fun e he => h e (List.mem_cons_of_mem member he)
    exact .cons (.intro member.1 (h member List.mem_cons_self next)) (hrest _)

/-- A proper document becomes the value that is made of it. -/
theorem IsProper.becomes_value (hj : j.IsProper) (next : Nat) : j.Becomes (j.value next) := by
  induction hj generalizing next with
  | null => exact .null
  | boolean b => exact .boolean b
  | number n => exact .number n
  | string s => exact .string s
  | array _ _ ih => exact .array _ (forall₂_items ih next)
  | @object members hdistinct _ ih =>
    have hmembers := forall₂_members ih next
    -- No key is repeated, so that every entry stays in its place.
    have hkept := Entries.ofList_of_nodup ((Value.ofJsonMembers members).run next).1
      (Entries.Under.keys_eq hmembers ▸ hdistinct)
    have hobject := Becomes.object ((Value.ofJsonMembers members).run next).2 hmembers
    rw [← hkept] at hobject
    exact hobject

/-- Two lists that go along with a third go along with each other. -/
theorem forall₂_join {α β γ : Type} {R : α → β → Prop} {S : α → γ → Prop} {T : β → γ → Prop}
    {as : List α} {bs : List β} {cs : List γ} (hR : List.Forall₂ R as bs)
    (hS : List.Forall₂ S as cs) (h : ∀ a ∈ as, ∀ b c, R a b → S a c → T b c) :
    List.Forall₂ T bs cs := by
  induction hR generalizing cs with
  | nil =>
    cases hS
    exact .nil
  | @cons a b as bs hab _ ih =>
    cases hS with
    | @cons _ c _ cs hac hrest =>
      have hhead : T b c := h a List.mem_cons_self b c hab hac
      exact .cons hhead (ih hrest fun e he => h e (List.mem_cons_of_mem a he))

/-- Two values that are made of one document have one structure. -/
theorem Becomes.sameStructure (hj : j.IsProper) (hv : j.Becomes v) (hw : j.Becomes w) :
    v.SameStructure w := by
  induction hj generalizing v w with
  | null | boolean b | number n | string s =>
    cases hv
    cases hw
    constructor
  | array _ _ ih =>
    cases hv with
    | array i hxs =>
      cases hw with
      | array k hys => exact .array i k (forall₂_join hxs hys fun d hd _ _ hx hy => ih d hd hx hy)
  | object _ _ ih =>
    cases hv with
    | object i hes =>
      cases hw with
      | object k hfs =>
        refine .object i k none (forall₂_join hes hfs ?_)
        rintro ⟨key, d⟩ hmember ⟨_, v⟩ ⟨_, w⟩ ⟨⟩ ⟨⟩
        next hx hy => exact .intro key (ih (key, d) hmember hx hy)

/-- A step into a part of a document is a step into the same part of its value. -/
theorem Becomes.child (hj : j.IsProper) (hv : j.Becomes v) (hd : j.child? step = some d) :
    d.IsProper ∧ d.Becomes (v.property step.key) := by
  cases hj with
  | null | boolean b | number n | string s => cases step <;> cases hd
  | @array items hlength hitems =>
    cases step with
    | member key => cases hd
    | element i =>
      obtain ⟨hi, rfl⟩ := List.getElem?_eq_some_iff.mp hd
      refine ⟨hitems _ (List.getElem_mem hi), ?_⟩
      cases hv with
      | @array id _ values hvalues =>
        have hsame : items.length = values.length := hvalues.length_eq
        have hread : (Value.array id values).property (Nat.repr i) = values[i] :=
          Value.property_array_element (hsame ▸ hlength) (hsame ▸ hi)
        have hpart : items[i].Becomes values[i] := hvalues.get hi (hsame ▸ hi)
        simpa only [Step.key, hread] using hpart
  | @object members _ hmembers =>
    cases step with
    | element i => cases hd
    | member key =>
      refine ⟨hmembers _ (Entries.mem_of_get?_eq_some hd), ?_⟩
      cases hv with
      | object id hentries =>
        obtain ⟨w, hw, hdw⟩ := Entries.Under.exists_get? hentries hd
        simpa only [Step.key, Value.property, hw, Option.getD_some] using hdw

theorem property_of_not_mem {id : Nat} {cls : Option Class} {entries : List (String × Value)}
    {key : String} (h : key ∉ entries.map (·.1)) :
    (Value.object id cls entries).property key = .undefined := by
  simp only [Value.property, Entries.get?_eq_none_iff.mpr h, Option.getD_none]

/-- A step that leads nowhere in a document reads nothing in its value. -/
theorem Becomes.property_of_lacks (hv : j.Becomes v) (h : j.Lacks step) :
    v.property step.key = .undefined := by
  cases h with
  | scalar step hscalar =>
    cases hv with
    | array _ _ | object _ _ => cases hscalar
    | _ => rfl
  | key hkey | text hkey =>
    cases hv with
    | object id hentries =>
      rw [← Entries.Under.keys_eq hentries] at hkey
      exact property_of_not_mem hkey
  | index hi =>
    cases hv with
    | array id hvalues =>
      have hsame := hvalues.length_eq
      refine Value.property_array_nothing (repr_ne_length _) fun k hk hrepr => ?_
      have hik := repr_injective hrepr
      omega
  | name hlength hkey =>
    cases hv with
    | array id hvalues =>
      rw [hvalues.length_eq] at hkey
      exact Value.property_array_nothing hlength hkey

end Json

namespace Value

/-- Reads along a path, a property at each step. -/
def read (v : Value) (path : List Json.Step) : Value :=
  path.foldl (fun v step => v.property step.key) v

theorem read_append (v : Value) (before after : List Json.Step) :
    v.read (before ++ after) = (v.read before).read after := List.foldl_append

theorem read_undefined (path : List Json.Step) : undefined.read path = undefined := by
  induction path with
  | nil => rfl
  | cons step rest ih => exact ih

variable {j d : Json} {v : Value} {path : List Json.Step}

/-- What is read along a path that exists is a value of the part that the path leads to. -/
theorem becomes_read (hj : j.IsProper) (hv : j.Becomes v) (hd : j.at? path = some d) :
    d.IsProper ∧ d.Becomes (v.read path) := by
  -- Each step leads from a document and a value of it to another such pair.
  induction path generalizing j v with
  | nil =>
    obtain rfl : j = d := Option.some.inj hd
    exact ⟨hj, hv⟩
  | cons step rest ih =>
    obtain ⟨part, hpart, hrest⟩ := Option.bind_eq_some_iff.mp hd
    obtain ⟨hproper, hbecomes⟩ := hv.child hj hpart
    exact ih hproper hbecomes hrest

/-- The entries of an object are the members of its document, in their order. -/
theorem entries_of_becomes {members : List (String × Json)} (hj : (Json.object members).IsProper)
    (hv : (Json.object members).Becomes v) :
    ∃ entries, v.entries? = some entries ∧
      List.Forall₂ (Entries.Under fun d w => ∀ other, w.SameStructure (d.value other))
        members entries := by
  cases hj with
  | object _ hmembers =>
    cases hv with
    | @object id _ entries hentries =>
      have hboth := (List.forall₂_and_left _ _).mpr ⟨hmembers, hentries⟩
      refine ⟨entries, rfl, hboth.imp ?_⟩
      rintro ⟨key, d⟩ ⟨_, w⟩ ⟨hd, ⟨⟩⟩
      next hw =>
        exact .intro key fun other => hw.sameStructure hd (hd.becomes_value other)

/-- A value made of a document has every part of the document where the document has it: a path that
exists reads a value of the part that it leads to, whatever follows a step that leads nowhere reads
nothing, objects keep their members in order, and integers are rounded to the nearest number. -/
theorem reading_follows_document (hj : j.IsProper) (next : Nat) :
    (∀ path d, j.at? path = some d →
        ∀ other, ((j.value next).read path).SameStructure (d.value other)) ∧
      (∀ before d step rest, j.at? before = some d → d.Lacks step →
        (j.value next).read (before ++ step :: rest) = undefined) ∧
      (∀ path members, j.at? path = some (.object members) →
        ∃ entries, ((j.value next).read path).entries? = some entries ∧
          List.Forall₂ (Entries.Under fun d w => ∀ other, w.SameStructure (d.value other))
            members entries) ∧
      ∀ path n, j.at? path = some (.number n) →
        ∃ x, (j.value next).read path = number x ∧ n.RoundsTo x := by
  have hvalue := hj.becomes_value next
  refine ⟨fun path d hd other => ?_, fun before d step rest hd hstep => ?_,
    fun path members hd => ?_, fun path n hd => ?_⟩
  · obtain ⟨hproper, hread⟩ := becomes_read hj hvalue hd
    exact hread.sameStructure hproper (hproper.becomes_value other)
  · obtain ⟨-, hread⟩ := becomes_read hj hvalue hd
    have hnothing : ((j.value next).read before).property step.key = undefined :=
      hread.property_of_lacks hstep
    rw [read_append, read, List.foldl_cons, hnothing]
    exact read_undefined rest
  · obtain ⟨hproper, hread⟩ := becomes_read hj hvalue hd
    exact entries_of_becomes hproper hread
  · obtain ⟨-, hread⟩ := becomes_read hj hvalue hd
    generalize (j.value next).read path = v at hread
    cases hread
    exact ⟨_, rfl, n.roundsTo_number⟩

/-- A nested part is read, and the end of its array is not passed. -/
theorem reading_follows_document_rows :
    let inner : Json := .object [("0", .string "x"), ("a", .null)]
    let outer : Json := .object [("rows", .array [.boolean true, inner]), ("1", .null)]
    outer.IsProper ∧
      ((outer.value 0).read [.member "rows", .element 1, .member "0"]).SameStructure (.string "x") ∧
      (outer.value 0).read [.member "rows", .element 2, .member "0"] = undefined := by
  intro inner outer
  have hinner : inner.IsProper :=
    .object (by decide) (by simp [Json.IsProper.string, Json.IsProper.null])
  have hrows : (Json.array [.boolean true, inner]).IsProper :=
    .array (by decide) (by simp [Json.IsProper.boolean, hinner])
  have houter : outer.IsProper := .object (by decide) (by simp [hrows, Json.IsProper.null])
  obtain ⟨hpart, hnothing, -, -⟩ := reading_follows_document houter 0
  refine ⟨houter, hpart _ (.string "x") rfl 0, ?_⟩
  exact hnothing [.member "rows"] _ (.element 2) [.member "0"] rfl (.index (by decide))

end Value

end Conform
