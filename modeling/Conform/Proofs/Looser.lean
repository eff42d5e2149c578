import Conform.Proofs.LooserOptions
import Conform.Proofs.Meaning

/-! Descriptions whose checkers pass more than those of others. Every way of combining checkers
keeps this: the whole passes more if its parts do. -/

namespace Conform

variable {r : Registry}

namespace Outcome

/-- Of the values in a registry, all that pass one pass the other. -/
def Wider (r : Registry) (o' o : Value → Outcome) : Prop :=
  ∀ v : Value, v.IsIn r → (o v).passed = true → (o' v).passed = true

variable {o o' : Value → Outcome} {os os' : List (Value → Outcome)}

theorem Wider.refl (o : Value → Outcome) : Wider r o o := fun _ _ h => h

theorem passed_every {outcomes : List Outcome} :
    (every outcomes).passed = true ↔ ∀ o ∈ outcomes, o.passed = true := by
  simp [every]

theorem passed_either {outcomes : List Outcome} :
    (either outcomes).passed = true ↔ ∃ o ∈ outcomes, o.passed = true := by
  simp [either]

theorem wider_ofRule {violation? violation'? : Value → Option Violation}
    (h : ∀ v : Value, v.IsIn r → violation? v = none → violation'? v = none) :
    Wider r (.ofRule violation'?) (.ofRule violation?) := by
  intro v hv hpass
  exact Option.isNone_iff_eq_none.mpr (h v hv (Option.isNone_iff_eq_none.mp hpass))

/-- Of what all have to pass, each is wider than something that had to be passed before. -/
theorem wider_every (h : ∀ o' ∈ os', ∃ o ∈ os, Wider r o' o) :
    Wider r (fun v => every (os'.map (· v))) (fun v => every (os.map (· v))) := by
  intro v hv hpass
  rw [passed_every] at hpass ⊢
  intro outcome houtcome
  obtain ⟨o', ho', rfl⟩ := List.mem_map.mp houtcome
  obtain ⟨o, ho, hwider⟩ := h o' ho'
  exact hwider v hv (hpass _ (List.mem_map_of_mem ho))

/-- Whatever passed one before passes one that is wider. -/
theorem wider_either (h : ∀ o ∈ os, ∃ o' ∈ os', Wider r o' o) :
    Wider r (fun v => either (os'.map (· v))) (fun v => either (os.map (· v))) := by
  intro v hv hpass
  rw [passed_either] at hpass ⊢
  obtain ⟨outcome, houtcome, hpass⟩ := hpass
  obtain ⟨o, ho, rfl⟩ := List.mem_map.mp houtcome
  obtain ⟨o', ho', hwider⟩ := h o ho
  exact ⟨_, List.mem_map_of_mem ho', hwider v hv hpass⟩

theorem wider_ofOptional (h : Wider r o' o) : Wider r (ofOptional o') (ofOptional o) := by
  intro v hv hpass
  unfold ofOptional at hpass ⊢
  split
  · rfl
  · rename_i hnullish
    rw [if_neg hnullish] at hpass
    exact h v hv hpass

/-- An option passes whatever is passed without it. -/
theorem wider_ofOptional_self : Wider r (ofOptional o) o := by
  intro v hv hpass
  unfold ofOptional
  split
  · rfl
  · exact hpass

/-- A wider rule on lengths and wider checks of elements pass more arrays. -/
theorem wider_ofArray {length length' : LengthRule} {element element' : Option (Value → Outcome)}
    (hlength : ∀ n, length.violation? n = none → length'.violation? n = none)
    (helement : ∀ o' ∈ element', ∃ o ∈ element, Wider r o' o) :
    Wider r (ofArray length' element') (ofArray length element) := by
  intro v hv hpass
  cases v with
  | array id items =>
    simp only [ofArray] at hpass ⊢
    split at hpass
    · cases hpass
    · rename_i hadmitted
      have hadmitted' : length'.violation? items.length = none :=
        hlength _ (Option.not_isSome_iff_eq_none.mp hadmitted)
      rw [hadmitted', if_neg (by simp)]
      cases element' with
      | none => rfl
      | some o' =>
        obtain ⟨o, rfl, hwider⟩ := helement o' rfl
        rw [passed_every] at hpass ⊢
        intro outcome houtcome
        obtain ⟨item, hitem, rfl⟩ := List.mem_map.mp houtcome
        exact hwider item (hv.of_mem_items hitem) (hpass _ (List.mem_map_of_mem hitem))
  | _ => cases hpass

/-- Properties may be given up, and the others checked less strictly. -/
theorem wider_ofObject {options options' : ObjectOptions (Value → Outcome)}
    (hoptional : options.optional = true → options'.optional = true)
    (hproperties : ∀ p' ∈ options'.properties,
      ∃ p ∈ options.properties, p.1 = p'.1 ∧ Wider r p'.2 p.2) :
    Wider r (ofObject options') (ofObject options) := by
  intro v hv hpass
  unfold ofObject at hpass ⊢
  split at hpass
  · rename_i hobject
    rw [if_pos hobject]
    split at hpass
    · rename_i hnull
      rw [if_pos hnull]
      exact hoptional hpass
    · rename_i hnull
      rw [if_neg hnull]
      rw [passed_every] at hpass ⊢
      intro outcome houtcome
      obtain ⟨p', hp', rfl⟩ := List.mem_map.mp houtcome
      obtain ⟨p, hp, hname, hwider⟩ := hproperties p' hp'
      have hread : (p.2 (v.property p.1)).passed = true := hpass _ (List.mem_map_of_mem hp)
      rw [hname] at hread
      exact hwider _ (hv.property p'.1) hread
  · cases hpass

end Outcome

namespace Checker

variable {c c' : Checker} {cs cs' : List Checker} {os : List (Value → Outcome)}

theorem meanings_cons_iff : meanings (c :: cs) = .ok os ↔
    ∃ o rest, c.meaning = .ok o ∧ meanings cs = .ok rest ∧ o :: rest = os := by
  constructor
  · intro h
    obtain ⟨o, ho, h⟩ := bind_eq_ok_iff.mp h
    obtain ⟨rest, hrest, h⟩ := bind_eq_ok_iff.mp h
    exact ⟨o, rest, ho, hrest, Except.ok.inj h⟩
  · rintro ⟨o, rest, ho, hrest, rfl⟩
    exact bind_eq_ok_iff.mpr ⟨o, ho, bind_eq_ok_iff.mpr ⟨rest, hrest, rfl⟩⟩

/-- A list of descriptions can be built if each of them can. -/
theorem exists_meanings_iff :
    (∃ os, meanings cs = .ok os) ↔ ∀ c ∈ cs, ∃ o, c.meaning = .ok o := by
  induction cs with
  | nil => simp [meanings, pure, Except.pure]
  | cons c rest ih =>
    rw [List.forall_mem_cons, ← ih]
    constructor
    · rintro ⟨os, h⟩
      obtain ⟨o, after, ho, hafter, -⟩ := meanings_cons_iff.mp h
      exact ⟨⟨o, ho⟩, after, hafter⟩
    · rintro ⟨⟨o, ho⟩, after, hafter⟩
      exact ⟨_, meanings_cons_iff.mpr ⟨o, after, ho, hafter, rfl⟩⟩

theorem mem_meanings_iff (h : meanings cs = .ok os) {o : Value → Outcome} :
    o ∈ os ↔ ∃ c ∈ cs, c.meaning = .ok o := by
  induction cs generalizing os with
  | nil =>
    cases h
    simp
  | cons c rest ih =>
    obtain ⟨first, after, hfirst, hafter, rfl⟩ := meanings_cons_iff.mp h
    simp [ih hafter, hfirst, eq_comm]

section Entries

variable {name : String} {properties : List (String × Checker)}
  {entries : List (String × (Value → Outcome))}

theorem meaningEntries_cons_iff : meaningEntries ((name, c) :: properties) = .ok entries ↔
    ∃ o rest, c.meaning = .ok o ∧ meaningEntries properties = .ok rest ∧
      (name, o) :: rest = entries := by
  constructor
  · intro h
    obtain ⟨o, ho, h⟩ := bind_eq_ok_iff.mp h
    obtain ⟨rest, hrest, h⟩ := bind_eq_ok_iff.mp h
    exact ⟨o, rest, ho, hrest, Except.ok.inj h⟩
  · rintro ⟨o, rest, ho, hrest, rfl⟩
    exact bind_eq_ok_iff.mpr ⟨o, ho, bind_eq_ok_iff.mpr ⟨rest, hrest, rfl⟩⟩

theorem meaningEntries_filter (h : meaningEntries properties = .ok entries) (name : String) :
    meaningEntries (properties.filter (·.1 ≠ name)) = .ok (entries.filter (·.1 ≠ name)) := by
  induction properties generalizing entries with
  | nil =>
    cases h
    rfl
  | cons p rest ih =>
    obtain ⟨o, after, ho, hafter, rfl⟩ := meaningEntries_cons_iff.mp h
    have hrest := ih hafter
    by_cases hname : p.1 = name
    · simpa [hname] using hrest
    · rw [List.filter_cons_of_pos (by simpa using hname),
        List.filter_cons_of_pos (by simpa using hname)]
      exact meaningEntries_cons_iff.mpr ⟨o, _, ho, hrest, rfl⟩

theorem meaningEntries_append_cons_iff {pre post : List (String × Checker)} :
    meaningEntries (pre ++ (name, c) :: post) = .ok entries ↔
      ∃ before o after, meaningEntries pre = .ok before ∧ c.meaning = .ok o ∧
        meaningEntries post = .ok after ∧ before ++ (name, o) :: after = entries := by
  induction pre generalizing entries with
  | nil =>
    rw [List.nil_append, meaningEntries_cons_iff]
    constructor
    · rintro ⟨o, after, ho, hafter, rfl⟩
      exact ⟨[], o, after, rfl, ho, hafter, rfl⟩
    · rintro ⟨before, o, after, hbefore, ho, hafter, rfl⟩
      cases hbefore
      exact ⟨o, after, ho, hafter, rfl⟩
  | cons p rest ih =>
    rw [List.cons_append, meaningEntries_cons_iff]
    constructor
    · rintro ⟨first, others, hfirst, hothers, rfl⟩
      obtain ⟨before, o, after, hbefore, ho, hafter, rfl⟩ := ih.mp hothers
      exact ⟨_, o, after, meaningEntries_cons_iff.mpr ⟨first, before, hfirst, hbefore, rfl⟩, ho,
        hafter, rfl⟩
    · rintro ⟨before, o, after, hbefore, ho, hafter, rfl⟩
      obtain ⟨first, others, hfirst, hothers, rfl⟩ := meaningEntries_cons_iff.mp hbefore
      exact ⟨first, _, hfirst, ih.mpr ⟨others, o, after, hothers, ho, hafter, rfl⟩, rfl⟩

end Entries

/-- If there is one checker there is the other, and it passes all values of the registry that the
one passes. -/
def Looser (r : Registry) (c' c : Checker) : Prop :=
  ∀ o, c.meaning = .ok o → ∃ o', c'.meaning = .ok o' ∧ Outcome.Wider r o' o

theorem Looser.refl (c : Checker) : Looser r c c := by
  intro o ho
  exact ⟨o, ho, .refl o⟩

/-- A conjunction passes more if each of its members has a stricter counterpart in the other. -/
theorem looser_all (h : ∀ d' ∈ cs', ∃ d ∈ cs, Looser r d' d) : Looser r (.all cs') (.all cs) := by
  intro o ho
  obtain ⟨os, hos, ho⟩ := bind_eq_ok_iff.mp ho
  cases ho
  have hbuilt : ∀ d ∈ cs, ∃ o, d.meaning = .ok o := exists_meanings_iff.mp ⟨os, hos⟩
  have hbuilt' : ∀ d' ∈ cs', ∃ o', d'.meaning = .ok o' := by
    intro d' hd'
    obtain ⟨d, hd, hlooser⟩ := h d' hd'
    obtain ⟨o, ho⟩ := hbuilt d hd
    obtain ⟨o', ho', -⟩ := hlooser o ho
    exact ⟨o', ho'⟩
  obtain ⟨os', hos'⟩ := exists_meanings_iff.mpr hbuilt'
  refine ⟨_, bind_eq_ok_iff.mpr ⟨os', hos', rfl⟩, Outcome.wider_every fun o' ho' => ?_⟩
  obtain ⟨d', hd', hmeaning'⟩ := (mem_meanings_iff hos').mp ho'
  obtain ⟨d, hd, hlooser⟩ := h d' hd'
  obtain ⟨o, ho⟩ := hbuilt d hd
  obtain ⟨o'', ho'', hwider⟩ := hlooser o ho
  cases hmeaning'.symm.trans ho''
  exact ⟨o, (mem_meanings_iff hos).mpr ⟨d, hd, ho⟩, hwider⟩

/-- A choice passes more if each alternative of the other has a looser counterpart in it. -/
theorem looser_any (h : ∀ d ∈ cs, ∃ d' ∈ cs', Looser r d' d)
    (hbuilt : (∀ d ∈ cs, ∃ o, d.meaning = .ok o) → ∀ d' ∈ cs', ∃ o', d'.meaning = .ok o') :
    Looser r (.any cs') (.any cs) := by
  intro o ho
  obtain ⟨os, hos, ho⟩ := bind_eq_ok_iff.mp ho
  cases ho
  obtain ⟨os', hos'⟩ := exists_meanings_iff.mpr (hbuilt (exists_meanings_iff.mp ⟨os, hos⟩))
  refine ⟨_, bind_eq_ok_iff.mpr ⟨os', hos', rfl⟩, Outcome.wider_either fun o ho => ?_⟩
  obtain ⟨d, hd, hmeaning⟩ := (mem_meanings_iff hos).mp ho
  obtain ⟨d', hd', hlooser⟩ := h d hd
  obtain ⟨o', ho', hwider⟩ := hlooser o hmeaning
  exact ⟨o', (mem_meanings_iff hos').mpr ⟨d', hd', ho'⟩, hwider⟩

theorem looser_optional (h : Looser r c' c) : Looser r (.optional c') (.optional c) := by
  intro o ho
  obtain ⟨o, hc, ho⟩ := bind_eq_ok_iff.mp ho
  cases ho
  obtain ⟨o', hc', hwider⟩ := h o hc
  exact ⟨_, bind_eq_ok_iff.mpr ⟨o', hc', rfl⟩, Outcome.wider_ofOptional hwider⟩

theorem looser_wrapped : Looser r (.optional c) c := by
  intro o ho
  exact ⟨_, bind_eq_ok_iff.mpr ⟨o, ho, rfl⟩, Outcome.wider_ofOptional_self⟩

theorem looser_arrayOf (h : Looser r c' c) : Looser r (.arrayOf c') (.arrayOf c) := by
  intro o ho
  obtain ⟨o, hc, ho⟩ := bind_eq_ok_iff.mp ho
  cases ho
  obtain ⟨o', hc', hwider⟩ := h o hc
  refine ⟨_, bind_eq_ok_iff.mpr ⟨o', hc', rfl⟩, Outcome.wider_ofArray (fun _ hn => hn) ?_⟩
  intro element helement
  cases helement
  exact ⟨o, rfl, hwider⟩

theorem exists_meaning?_of_looser {element element' : Option Checker}
    (h : ∀ d' ∈ element', ∃ d ∈ element, Looser r d' d) {outcome : Option (Value → Outcome)}
    (houtcome : meaning? element = .ok outcome) :
    ∃ outcome', meaning? element' = .ok outcome' ∧
      ∀ o' ∈ outcome', ∃ o ∈ outcome, Outcome.Wider r o' o := by
  cases element' with
  | none => exact ⟨none, rfl, by simp⟩
  | some d' =>
    obtain ⟨d, hd, hlooser⟩ := h d' rfl
    cases hd
    obtain ⟨o, ho, houtcome⟩ := bind_eq_ok_iff.mp houtcome
    cases houtcome
    obtain ⟨o', ho', hwider⟩ := hlooser o ho
    refine ⟨some o', bind_eq_ok_iff.mpr ⟨o', ho', rfl⟩, fun p hp => ?_⟩
    cases hp
    exact ⟨o, rfl, hwider⟩

/-- Bounds on the length may be moved apart or given up, and so may the check of elements. -/
theorem looser_array {element element' : Option Checker} {min max min' max' : Option Nat}
    (helement : ∀ d' ∈ element', ∃ d ∈ element, Looser r d' d)
    (hmin : ∀ a ∈ min', ∃ b ∈ min, a ≤ b) (hmax : ∀ a ∈ max', ∃ b ∈ max, b ≤ a) :
    Looser r (.array element' min' max') (.array element min max) := by
  intro o ho
  obtain ⟨outcome, houtcome, ho⟩ := bind_eq_ok_iff.mp ho
  obtain ⟨length, hlength, ho⟩ := bind_eq_ok_iff.mp ho
  cases ho
  obtain ⟨length', hlength', hadmits⟩ :=
    LengthRule.exists_looser hlength (fun _ ha => ha) hmin hmax
  obtain ⟨outcome', houtcome', hwider⟩ := exists_meaning?_of_looser helement houtcome
  exact ⟨_, bind_eq_ok_iff.mpr ⟨outcome', houtcome', bind_eq_ok_iff.mpr ⟨length', hlength', rfl⟩⟩,
    Outcome.wider_ofArray hadmits hwider⟩

/-- An object may become nullable, and its properties may be checked less strictly. -/
theorem looser_object {nullable nullable' : Bool} {properties properties' : List (String × Checker)}
    (hnullable : nullable = true → nullable' = true)
    (hproperties : ∀ entries, meaningEntries properties = .ok entries →
      ∃ entries', meaningEntries properties' = .ok entries' ∧
        ∀ p' ∈ Entries.ofList entries', ∃ p ∈ Entries.ofList entries,
          p.1 = p'.1 ∧ Outcome.Wider r p'.2 p.2) :
    Looser r (.object nullable' properties') (.object nullable properties) := by
  intro o ho
  obtain ⟨entries, hentries, ho⟩ := bind_eq_ok_iff.mp ho
  cases ho
  obtain ⟨entries', hentries', hwider⟩ := hproperties entries hentries
  refine ⟨_, bind_eq_ok_iff.mpr ⟨entries', hentries', rfl⟩, ?_⟩
  rw [ObjectOptions.ofList_eq, ObjectOptions.ofList_eq]
  exact Outcome.wider_ofObject hnullable hwider

/-- The properties of one name may be given up. -/
theorem looser_object_filter (nullable : Bool) (properties : List (String × Checker))
    (name : String) :
    Looser r (.object nullable (properties.filter (·.1 ≠ name))) (.object nullable properties) := by
  refine looser_object (fun h => h) fun entries hentries => ?_
  refine ⟨_, meaningEntries_filter hentries name, fun p hp => ?_⟩
  rw [Entries.ofList_filter] at hp
  exact ⟨p, (List.mem_filter.mp hp).1, rfl, .refl p.2⟩

theorem looser_object_replace (nullable : Bool) (pre post : List (String × Checker)) (name : String)
    (h : Looser r c' c) : Looser r (.object nullable (pre ++ (name, c') :: post))
      (.object nullable (pre ++ (name, c) :: post)) := by
  refine looser_object (fun h => h) fun entries hentries => ?_
  obtain ⟨before, o, after, hbefore, ho, hafter, rfl⟩ := meaningEntries_append_cons_iff.mp hentries
  obtain ⟨o', ho', hwider⟩ := h o ho
  refine ⟨_, meaningEntries_append_cons_iff.mpr ⟨before, o', after, hbefore, ho', hafter, rfl⟩, ?_⟩
  intro p' hp'
  rcases Entries.mem_ofList_replace hp' with hp | ⟨hp, rfl⟩
  · exact ⟨p', hp, rfl, .refl p'.2⟩
  · exact ⟨(name, o), hp, rfl, hwider⟩

theorem looser_fallible (h : Looser r c' c) : Looser r (.fallible c') (.fallible c) := by
  intro o ho
  cases ho
  refine ⟨_, rfl, fun v hv hpass => ?_⟩
  cases hc : c.meaning with
  | error e =>
    rw [hc] at hpass
    cases hpass
  | ok o =>
    obtain ⟨o', hc', hwider⟩ := h o hc
    rw [hc] at hpass
    rw [hc']
    exact hwider v hv hpass

/-- Rules that are made whenever others were, and pass what those passed. -/
theorem exists_ofRule {ρ : Type} {rule rule' : Except ConfigError ρ}
    {violation? : ρ → Value → Option Violation}
    (h : ∀ a, rule = .ok a → ∃ a', rule' = .ok a' ∧
      ∀ v : Value, v.IsIn r → violation? a v = none → violation? a' v = none)
    {o : Value → Outcome} (ho : (do return .ofRule (violation? (← rule))) = Except.ok o) :
    ∃ o', (do return .ofRule (violation? (← rule'))) = Except.ok o' ∧ Outcome.Wider r o' o := by
  obtain ⟨a, ha, ho⟩ := bind_eq_ok_iff.mp ho
  cases ho
  obtain ⟨a', ha', hpass⟩ := h a ha
  exact ⟨_, bind_eq_ok_iff.mpr ⟨a', ha', rfl⟩, Outcome.wider_ofRule hpass⟩

theorem looser_string {o o' : StringOptions} (h : o'.IsLooserThan o) :
    Looser r (.string o') (.string o) := by
  intro outcome houtcome
  refine exists_ofRule (fun rule hrule => ?_) houtcome
  obtain ⟨rule', hrule', hpass⟩ := StringRule.exists_looser hrule h
  exact ⟨rule', hrule', fun v _ => hpass v⟩

theorem looser_number {o o' : NumberOptions} (h : o'.IsLooserThan o) :
    Looser r (.number o') (.number o) := by
  intro outcome houtcome
  refine exists_ofRule (fun rule hrule => ?_) houtcome
  obtain ⟨rule', hrule', hpass⟩ := NumberRule.exists_looser hrule h
  exact ⟨rule', hrule', fun v _ => hpass v⟩

theorem meaning_stringDocument {d : Json} {o : StringOptions} (h : StringOptions.ofJson d = .ok o) :
    (stringDocument d).meaning = (string o).meaning := by
  rw [meaning, meaning, h]
  rfl

theorem meaning_numberDocument {d : Json} {o : NumberOptions} (h : NumberOptions.ofJson d = .ok o) :
    (numberDocument d).meaning = (number o).meaning := by
  rw [meaning, meaning, h]
  rfl

theorem looser_oneOf {choices choices' : List Value} (h : choices ⊆ choices') :
    Looser r (.oneOf choices') (.oneOf choices) := by
  intro outcome houtcome
  cases houtcome
  refine ⟨_, rfl, Outcome.wider_ofRule fun v _ hpass => ?_⟩
  obtain ⟨u, hu, hequal⟩ := ChoiceRule.violation?_eq_none_iff.mp hpass
  exact ChoiceRule.violation?_eq_none_iff.mpr ⟨u, h hu, hequal⟩

/-- Classes may be added, or replaced by their ancestors. -/
theorem looser_instanceOf {classes classes' : List Class} (h : Class.Covered r classes classes') :
    Looser r (.instanceOf classes') (.instanceOf classes) := by
  intro outcome houtcome
  refine exists_ofRule (fun rule hrule => ?_) houtcome
  exact InstanceRule.exists_covering hrule h

theorem meaning_instanceOfValues {candidates : List Value} {classes : List Class}
    (h : candidates.mapM Class.ofValue = .ok classes) :
    (instanceOfValues candidates).meaning = (instanceOf classes).meaning := by
  rw [meaning, meaning, InstanceRule.ofValues, h]
  rfl

/-- With one member of a list replaced, each member has a counterpart that is no looser. -/
theorem exists_looser_of_mem (h : Looser r c' c) {pre post : List Checker} :
    ∀ d' ∈ pre ++ c' :: post, ∃ d ∈ pre ++ c :: post, Looser r d' d := by
  intro d' hd'
  rcases List.mem_cons.mp (List.perm_middle.mem_iff.mp hd') with rfl | hd'
  · exact ⟨c, List.perm_middle.mem_iff.mpr List.mem_cons_self, h⟩
  · exact ⟨d', List.perm_middle.mem_iff.mpr (List.mem_cons_of_mem c hd'), .refl d'⟩

theorem exists_mem_looser (h : Looser r c' c) {pre post : List Checker} :
    ∀ d ∈ pre ++ c :: post, ∃ d' ∈ pre ++ c' :: post, Looser r d' d := by
  intro d hd
  rcases List.mem_cons.mp (List.perm_middle.mem_iff.mp hd) with rfl | hd
  · exact ⟨c', List.perm_middle.mem_iff.mpr List.mem_cons_self, h⟩
  · exact ⟨d, List.perm_middle.mem_iff.mpr (List.mem_cons_of_mem c' hd), .refl d⟩

end Checker

end Conform
