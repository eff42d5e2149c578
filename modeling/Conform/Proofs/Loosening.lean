import Conform.Proofs.Looser

/-! Loosening one thing, anywhere in a description, takes nothing away: there still is a checker,
and it passes whatever the one before passed. -/

namespace Conform

variable {r : Registry}

namespace Checker

variable {c c' : Checker}

/-- One thing is loosened at the top of a description: a constraint of its options is dropped or a
bound widened, a property is dropped, null is let through, choices or classes are added, ancestors
take the place of classes, a part of a conjunction is dropped, an alternative is added that there is
a checker for, or the whole is made optional. -/
inductive Loosening (r : Registry) : Checker → Checker → Prop where
  | string {o o' : StringOptions} (h : o'.IsLooserThan o) : Loosening r (string o) (string o')
  | stringDocument {d d' : Json} {o o' : StringOptions} (hd : StringOptions.ofJson d = .ok o)
      (hd' : StringOptions.ofJson d' = .ok o') (h : o'.IsLooserThan o) :
      Loosening r (stringDocument d) (stringDocument d')
  | number {o o' : NumberOptions} (h : o'.IsLooserThan o) : Loosening r (number o) (number o')
  | numberDocument {d d' : Json} {o o' : NumberOptions} (hd : NumberOptions.ofJson d = .ok o)
      (hd' : NumberOptions.ofJson d' = .ok o') (h : o'.IsLooserThan o) :
      Loosening r (numberDocument d) (numberDocument d')
  | element (c : Checker) (min max : Option Nat) :
      Loosening r (array (some c) min max) (array none min max)
  | bounds (element : Option Checker) {min max min' max' : Option Nat}
      (hmin : ∀ a ∈ min', ∃ b ∈ min, a ≤ b) (hmax : ∀ a ∈ max', ∃ b ∈ max, b ≤ a) :
      Loosening r (array element min max) (array element min' max')
  | property (nullable : Bool) (properties : List (String × Checker)) (name : String) :
      Loosening r (object nullable properties)
        (object nullable (properties.filter (·.1 ≠ name)))
  | null (properties : List (String × Checker)) :
      Loosening r (object false properties) (object true properties)
  | choices {choices choices' : List Value} (h : choices ⊆ choices') :
      Loosening r (oneOf choices) (oneOf choices')
  | choicesValue {i j : Nat} {choices choices' : List Value} (h : choices ⊆ choices') :
      Loosening r (oneOfValue (.array i choices)) (oneOfValue (.array j choices'))
  | classes {classes classes' : List Class} (h : Class.Covered r classes classes') :
      Loosening r (instanceOf classes) (instanceOf classes')
  | candidates {candidates candidates' : List Value} {classes classes' : List Class}
      (hc : candidates.mapM Class.ofValue = .ok classes)
      (hc' : candidates'.mapM Class.ofValue = .ok classes')
      (h : Class.Covered r classes classes') :
      Loosening r (instanceOfValues candidates) (instanceOfValues candidates')
  | part (pre post : List Checker) (c : Checker) :
      Loosening r (all (pre ++ c :: post)) (all (pre ++ post))
  | alternative (pre post : List Checker) {c : Checker} {i : Inspector}
      (hc : c.inspector.result = .ok i) :
      Loosening r (any (pre ++ post)) (any (pre ++ c :: post))
  | optional (c : Checker) : Loosening r c (optional c)

/-- One thing is loosened at some place of a description. -/
inductive LooseningWithin (r : Registry) : Checker → Checker → Prop where
  | here {c c' : Checker} (h : Loosening r c c') : LooseningWithin r c c'
  | all (pre post : List Checker) {c c' : Checker} (h : LooseningWithin r c c') :
      LooseningWithin r (all (pre ++ c :: post)) (all (pre ++ c' :: post))
  | any (pre post : List Checker) {c c' : Checker} (h : LooseningWithin r c c') :
      LooseningWithin r (any (pre ++ c :: post)) (any (pre ++ c' :: post))
  | optional {c c' : Checker} (h : LooseningWithin r c c') :
      LooseningWithin r (optional c) (optional c')
  | arrayOf {c c' : Checker} (h : LooseningWithin r c c') :
      LooseningWithin r (arrayOf c) (arrayOf c')
  | array {c c' : Checker} (min max : Option Nat) (h : LooseningWithin r c c') :
      LooseningWithin r (array (some c) min max) (array (some c') min max)
  | object (nullable : Bool) (pre post : List (String × Checker)) (name : String) {c c' : Checker}
      (h : LooseningWithin r c c') :
      LooseningWithin r (object nullable (pre ++ (name, c) :: post))
        (object nullable (pre ++ (name, c') :: post))
  | ofValidator {c c' : Checker} (h : LooseningWithin r c c') :
      LooseningWithin r (ofValidator c) (ofValidator c')
  | toValidator {c c' : Checker} (h : LooseningWithin r c c') :
      LooseningWithin r (toValidator c) (toValidator c')
  | fallible {c c' : Checker} (h : LooseningWithin r c c') :
      LooseningWithin r (fallible c) (fallible c')
  | within {c c' : Checker} (wrap : String → String) (h : LooseningWithin r c c') :
      LooseningWithin r (within c wrap) (within c' wrap)

/-- Each single step of loosening makes a checker that passes more. -/
theorem Loosening.looser (h : Loosening r c c') : Looser r c' c := by
  cases h with
  | string h => exact looser_string h
  | stringDocument hd hd' h =>
    rw [Looser, meaning_stringDocument hd, meaning_stringDocument hd']
    exact looser_string h
  | number h => exact looser_number h
  | numberDocument hd hd' h =>
    rw [Looser, meaning_numberDocument hd, meaning_numberDocument hd']
    exact looser_number h
  | element c min max =>
    refine looser_array (by simp) (fun a ha => ⟨a, ha, Nat.le_refl a⟩) fun a ha => ?_
    exact ⟨a, ha, Nat.le_refl a⟩
  | bounds element hmin hmax =>
    exact looser_array (fun d hd => ⟨d, hd, .refl d⟩) hmin hmax
  | property nullable properties name => exact looser_object_filter nullable properties name
  | null properties =>
    refine looser_object (fun _ => rfl) fun entries hentries => ⟨entries, hentries, ?_⟩
    intro p hp
    exact ⟨p, hp, rfl, .refl p.2⟩
  | choices h => exact looser_oneOf h
  | choicesValue h => exact looser_oneOf h
  | classes h => exact looser_instanceOf h
  | candidates hc hc' h =>
    rw [Looser, meaning_instanceOfValues hc, meaning_instanceOfValues hc']
    exact looser_instanceOf h
  | part pre post c =>
    refine looser_all fun d hd => ⟨d, ?_, .refl d⟩
    exact List.perm_middle.mem_iff.mpr (List.mem_cons_of_mem c hd)
  | @alternative pre post c i hc =>
    have hmeaning : c.meaning = .ok i.outcome := (inspector_means c).meaning_of_ok hc
    refine looser_any (fun d hd => ⟨d, ?_, .refl d⟩) fun hbuilt d hd => ?_
    · exact List.perm_middle.mem_iff.mpr (List.mem_cons_of_mem c hd)
    · rcases List.mem_cons.mp (List.perm_middle.mem_iff.mp hd) with rfl | hd
      · exact ⟨_, hmeaning⟩
      · exact hbuilt d hd
  | optional c => exact looser_wrapped

/-- The induction is on the way down to the place: each way of combining checkers keeps that what is
looser passes more. -/
theorem LooseningWithin.looser (h : LooseningWithin r c c') : Looser r c' c := by
  induction h with
  | here h => exact h.looser
  | all pre post _ ih => exact looser_all (exists_looser_of_mem ih)
  | any pre post _ ih =>
    refine looser_any (exists_mem_looser ih) fun hbuilt d' hd' => ?_
    obtain ⟨d, hd, hlooser⟩ := exists_looser_of_mem ih d' hd'
    obtain ⟨o, ho⟩ := hbuilt d hd
    obtain ⟨o', ho', -⟩ := hlooser o ho
    exact ⟨o', ho'⟩
  | optional _ ih => exact looser_optional ih
  | arrayOf _ ih => exact looser_arrayOf ih
  | @array c c' min max _ ih =>
    refine looser_array (fun d' hd' => ?_) (fun a ha => ⟨a, ha, Nat.le_refl a⟩) fun a ha => ?_
    · cases hd'
      exact ⟨c, rfl, ih⟩
    · exact ⟨a, ha, Nat.le_refl a⟩
  | object nullable pre post name _ ih => exact looser_object_replace nullable pre post name ih
  | ofValidator _ ih | toValidator _ ih | within _ _ ih => exact ih
  | fallible _ ih => exact looser_fallible ih

/-- Whatever is loosened and wherever, in both modes there still is a checker, and it passes every
value that the checker before passed. -/
theorem loosening_rejects_no_more (h : LooseningWithin r c c') :
    (∀ p, c.validator.result = .ok p → ∃ p', c'.validator.result = .ok p' ∧
      ∀ v : Value, v.IsIn r → (p.validate v).value = true → (p'.validate v).value = true) ∧
    (∀ i, c.inspector.result = .ok i → ∃ i', c'.inspector.result = .ok i' ∧
      ∀ v : Value, v.IsIn r → (i.inspect v).value.passed = true →
        (i'.inspect v).value.passed = true) := by
  constructor
  · intro p hp
    obtain ⟨o', ho', hwider⟩ := h.looser _ ((validator_means c).meaning_of_ok hp)
    obtain ⟨p', hp', rfl⟩ := (validator_means c').exists_of_meaning ho'
    exact ⟨p', hp', hwider⟩
  · intro i hi
    obtain ⟨o', ho', hwider⟩ := h.looser _ ((inspector_means c).meaning_of_ok hi)
    obtain ⟨i', hi', rfl⟩ := (inspector_means c').exists_of_meaning ho'
    refine ⟨i', hi', fun v hv hpass => ?_⟩
    rw [Inspector.value_inspect] at hpass ⊢
    exact hwider v hv hpass

end Checker

/-- A registry with a cat and its owner. -/
def Registry.pets : Registry where
  symbols _ := none
  arrays _ := none
  objects
    | 2 => some (some (.derived 1 "Cat" (.base 0 "Animal")), [])
    | 3 => some (none, [("pet", .object 2 (some (.derived 1 "Cat" (.base 0 "Animal"))) [])])
    | _ => none
  patterns _ := none
  functions _ := none
  classes
    | 0 => some (.base 0 "Animal")
    | 1 => some (.derived 1 "Cat" (.base 0 "Animal"))
    | _ => none

/-- The owner of a cat still passes when the pet may be any animal. -/
theorem Checker.loosening_rejects_no_more_pets :
    let animal : Class := .base 0 "Animal"
    let cat : Class := .derived 1 "Cat" animal
    let owner : Value := .object 3 none [("pet", .object 2 (some cat) [])]
    let c : Checker := .all [.object false [("pet", .instanceOf [cat])], .defined]
    let c' : Checker := .all [.object false [("pet", .instanceOf [animal])], .defined]
    LooseningWithin .pets c c' ∧ owner.IsIn .pets ∧
      ∃ p, c.validator.result = .ok p ∧ (p.validate owner).value = true ∧
        ∃ p', c'.validator.result = .ok p' ∧ (p'.validate owner).value = true := by
  intro animal cat owner c c'
  have hcat : cat.IsIn .pets := by
    intro d hd
    rcases List.mem_cons.mp hd with rfl | hd
    · rfl
    · obtain rfl := List.mem_singleton.mp hd
      rfl
  have hcovered : Class.Covered .pets [cat] [animal] := by
    intro d hd
    obtain rfl := List.mem_singleton.mp hd
    exact .inr ⟨hcat, animal, List.mem_cons_self, List.mem_cons_of_mem _ List.mem_cons_self⟩
  have hstep : LooseningWithin .pets c c' :=
    .all [] [.defined] (.object false [] [] "pet" (.here (.classes hcovered)))
  have howner : owner.IsIn .pets := by
    refine ⟨rfl, by simp, ⟨rfl, fun d hd => ?_, trivial⟩, trivial⟩
    cases hd
    exact hcat
  obtain ⟨p', hp', hpasses⟩ := (loosening_rejects_no_more hstep).1 _ rfl
  exact ⟨hstep, howner, _, rfl, rfl, p', hp', hpasses owner howner rfl⟩

end Conform
