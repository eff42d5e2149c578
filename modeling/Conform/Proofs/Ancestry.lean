import Conform.Inspector
import Conform.Proofs.FirstFailure
import Conform.Proofs.LooserOptions
import Conform.Value.Supply
import Mathlib.Logic.Relation

/-! Ancestry: being a subclass is an order on the classes that have been made, in which the
ancestors of a class are a chain, and checks for instances depend on nothing else. -/

namespace Conform

/-- Classes that have been made one after the other, the latest first, and the identity that is next
to be given out. The parent of a class is there before it. Identities may go to other values. -/
inductive Population : List Class → Nat → Prop where
  | empty (next : Nat) : Population [] next
  | newClass {classes : List Class} {next : Nat} (name : String) (parent : Option Class) :
      (∀ p ∈ parent, p ∈ classes) → Population classes next →
      Population (((Supply.newClass name parent).run next).1 :: classes)
        ((Supply.newClass name parent).run next).2
  | identity {classes : List Class} {next : Nat} : Population classes next →
      Population classes (Supply.identity.run next).2

namespace Class

variable {c d e p : Class}

/-- A class is derived from itself, and from what its parent is derived from. -/
def DerivesFrom : Class → Class → Prop := Relation.ReflTransGen fun c p => c.parent? = some p

theorem DerivesFrom.of_parent (hparent : c.parent? = some p) (h : p.DerivesFrom d) :
    c.DerivesFrom d := .head hparent h

/-- A class derives from those of its lineage. -/
theorem derivesFrom_iff : c.DerivesFrom d ↔ d ∈ c.lineage := by
  constructor
  · intro h
    induction h using Relation.ReflTransGen.head_induction_on with
    | refl => exact d.mem_lineage_self
    | @head c p hparent _ ih =>
      cases c with
      | base id name => cases hparent
      | derived id name parent =>
        obtain rfl := Option.some.inj hparent
        exact List.mem_cons_of_mem _ ih
  · intro h
    induction c with
    | base id name =>
      obtain rfl := List.mem_singleton.mp h
      exact .refl
    | derived id name parent ih =>
      rcases List.mem_cons.mp h with rfl | h
      · exact .refl
      · exact .of_parent rfl (ih h)

/-- A class has one parent, so that of two ancestors one comes on the way to the other. -/
theorem DerivesFrom.comparable (hc : e.DerivesFrom c) (hd : e.DerivesFrom d) :
    c.DerivesFrom d ∨ d.DerivesFrom c := by
  refine Relation.ReflTransGen.total_of_right_unique ?_ hc hd
  intro a b b' hb hb'
  exact Option.some.inj (hb.symm.trans hb')

/-- The way to an ancestor is shorter from there on. -/
theorem DerivesFrom.eq_or_shorter (h : c.DerivesFrom d) :
    c = d ∨ d.lineage.length < c.lineage.length := by
  induction h using Relation.ReflTransGen.head_induction_on with
  | refl => exact .inl rfl
  | @head c p hparent _ ih =>
    have hlength : c.lineage.length = p.lineage.length + 1 := by
      cases c with
      | base id name => cases hparent
      | derived id name parent =>
        obtain rfl := Option.some.inj hparent
        rfl
    rcases ih with rfl | ih
    · right
      omega
    · right
      omega

/-- No class derives from another that derives from it. -/
theorem DerivesFrom.antisymm (h : c.DerivesFrom d) (h' : d.DerivesFrom c) : c = d := by
  rcases h.eq_or_shorter with rfl | hshorter
  · rfl
  · rcases h'.eq_or_shorter with rfl | hshorter'
    · rfl
    · omega

/-- Being a subclass orders the classes, and the classes that one of them is a subclass of are a
chain. -/
structure IsTreeOrder (classes : List Class) : Prop where
  refl : ∀ c ∈ classes, c.isSubclassOf c = true
  trans : ∀ c ∈ classes, ∀ d ∈ classes, ∀ e ∈ classes,
    c.isSubclassOf d = true → d.isSubclassOf e = true → c.isSubclassOf e = true
  antisymm : ∀ c ∈ classes, ∀ d ∈ classes,
    c.isSubclassOf d = true → d.isSubclassOf c = true → c = d
  chain : ∀ c ∈ classes, ∀ d ∈ classes, ∀ e ∈ classes,
    e.isSubclassOf c = true → e.isSubclassOf d = true →
      c.isSubclassOf d = true ∨ d.isSubclassOf c = true

end Class

namespace Population

variable {classes : List Class} {next : Nat} {c d : Class}

/-- Identities of classes are below the next one, ancestors of classes are there, and no two classes
have one identity. -/
structure Sound (classes : List Class) (next : Nat) : Prop where
  below : ∀ c ∈ classes, c.id < next
  closed : ∀ c ∈ classes, c.lineage ⊆ classes
  unique : ∀ c ∈ classes, ∀ d ∈ classes, c.id = d.id → c = d

theorem Sound.identity (h : Sound classes next) : Sound classes (Supply.identity.run next).2 where
  below c hc := Nat.lt_succ_of_lt (h.below c hc)
  closed := h.closed
  unique := h.unique

theorem id_newClass (name : String) (parent : Option Class) (next : Nat) :
    ((Supply.newClass name parent).run next).1.id = next := by
  cases parent <;> rfl

theorem lineage_newClass (name : String) (parent : Option Class) (next : Nat) :
    ((Supply.newClass name parent).run next).1.lineage =
      ((Supply.newClass name parent).run next).1 :: (parent.map Class.lineage).getD [] := by
  cases parent <;> rfl

/-- A new class may derive from any that has been made, and leaves the population sound. -/
theorem Sound.newClass (h : Sound classes next) (name : String) {parent : Option Class}
    (hparent : ∀ p ∈ parent, p ∈ classes) :
    Sound (((Supply.newClass name parent).run next).1 :: classes)
      ((Supply.newClass name parent).run next).2 := by
  have hid := id_newClass name parent next
  have hlineage := lineage_newClass name parent next
  generalize ((Supply.newClass name parent).run next).1 = made at hid hlineage
  have hfresh : ∀ c ∈ classes, made.id ≠ c.id := by
    intro c hc hsame
    have hbelow := h.below c hc
    omega
  refine ⟨?_, ?_, ?_⟩
  · intro c hc
    change c.id < next + 1
    rcases List.mem_cons.mp hc with rfl | hc
    · omega
    · have hbelow := h.below c hc
      omega
  · intro c hc
    rcases List.mem_cons.mp hc with rfl | hc
    · rw [hlineage]
      refine List.cons_subset_cons _ ?_
      cases parent with
      | none => exact List.nil_subset _
      | some p => exact h.closed p (hparent p rfl)
    · exact List.Subset.trans (h.closed c hc) (List.subset_cons_self _ _)
  · intro c hc d hd hsame
    rcases List.mem_cons.mp hc with rfl | hc'
    · rcases List.mem_cons.mp hd with rfl | hd'
      · rfl
      · exact (hfresh d hd' hsame).elim
    · rcases List.mem_cons.mp hd with rfl | hd'
      · exact (hfresh c hc' hsame.symm).elim
      · exact h.unique c hc' d hd' hsame

theorem sound (h : Population classes next) : Sound classes next := by
  induction h with
  | empty next => exact ⟨nofun, nofun, nofun⟩
  | newClass name parent hparent _ ih => exact ih.newClass name hparent
  | identity _ ih => exact ih.identity

theorem Sound.find?_id (h : Sound classes next) (hc : c ∈ classes) :
    (classes.find? fun d => d.id = c.id) = some c := by
  cases hfind : classes.find? fun d => d.id = c.id with
  | none => simpa using List.find?_eq_none.mp hfind c hc
  | some d =>
    have hid : d.id = c.id := by simpa using List.find?_some hfind
    rw [h.unique d (List.mem_of_find?_eq_some hfind) c hc hid]

/-- Identities of classes determine the classes. -/
theorem Sound.exists_registry (h : Sound classes next) :
    ∃ r : Registry, ∀ c ∈ classes, c.IsIn r := by
  refine ⟨⟨fun _ => none, fun _ => none, fun _ => none, fun _ => none, fun _ => none,
    fun id => classes.find? fun d => d.id = id⟩, fun c hc d hd => ?_⟩
  exact h.find?_id (h.closed c hc hd)

/-- The identities on the way up decide what the parents do. -/
theorem isSubclassOf_iff (h : Population classes next) (hc : c ∈ classes) (hd : d ∈ classes) :
    c.isSubclassOf d = true ↔ c.DerivesFrom d := by
  obtain ⟨r, hr⟩ := h.sound.exists_registry
  rw [(hr c hc).isSubclassOf_iff (hr d hd), Class.derivesFrom_iff]

theorem isTreeOrder (h : Population classes next) : Class.IsTreeOrder classes where
  refl c hc := (h.isSubclassOf_iff hc hc).mpr .refl
  trans c hc d hd e he hcd hde := by
    rw [h.isSubclassOf_iff hc hd] at hcd
    rw [h.isSubclassOf_iff hd he] at hde
    exact (h.isSubclassOf_iff hc he).mpr (hcd.trans hde)
  antisymm c hc d hd hcd hdc := by
    rw [h.isSubclassOf_iff hc hd] at hcd
    rw [h.isSubclassOf_iff hd hc] at hdc
    exact hcd.antisymm hdc
  chain c hc d hd e he hec hed := by
    rw [h.isSubclassOf_iff he hc] at hec
    rw [h.isSubclassOf_iff he hd] at hed
    rw [h.isSubclassOf_iff hc hd, h.isSubclassOf_iff hd hc]
    exact hec.comparable hed

end Population

namespace Value

variable {v : Value} {c : Class}

/-- The class that an object is of. -/
def instanceClass? : Value → Option Class
  | object _ cls _ => cls
  | _ => none

theorem instanceOf_iff :
    v.instanceOf c = true ↔ ∃ cls ∈ v.instanceClass?, cls.isSubclassOf c = true := by
  cases v with
  | object id cls entries => exact Option.any_eq_true _ cls
  | _ => simp [instanceOf, instanceClass?]

/-- If the value is an object of a class, then of one of these. -/
def HasClassIn (classes : List Class) (v : Value) : Prop := ∀ cls ∈ v.instanceClass?, cls ∈ classes

/-- The value is an object, and its class is derived from one that is listed. -/
def DescendsFrom (listed : List Class) (v : Value) : Prop :=
  ∃ cls ∈ v.instanceClass?, ∃ c ∈ listed, cls.DerivesFrom c

end Value

namespace InstanceRule

variable {classes listed : List Class} {next : Nat} {candidates before : List Value} {first : Value}

/-- A rule admits just the values whose class derives from a listed one. -/
theorem violation?_eq_none_iff_descendsFrom (h : Population classes next) {rule : InstanceRule}
    (hlisted : rule.classes ⊆ classes) {v : Value} (hv : v.HasClassIn classes) :
    rule.violation? v = none ↔ v.DescendsFrom rule.classes := by
  rw [violation?_eq_none_iff]
  constructor
  · rintro ⟨c, hc, hinstance⟩
    obtain ⟨cls, hcls, hsub⟩ := Value.instanceOf_iff.mp hinstance
    exact ⟨cls, hcls, c, hc, (h.isSubclassOf_iff (hv cls hcls) (hlisted hc)).mp hsub⟩
  · rintro ⟨cls, hcls, c, hc, hderives⟩
    refine ⟨c, hc, Value.instanceOf_iff.mpr ⟨cls, hcls, ?_⟩⟩
    exact (h.isSubclassOf_iff (hv cls hcls) (hlisted hc)).mpr hderives

theorem mapM_ofValue_of_map_class? (h : candidates.map Value.class? = listed.map some) :
    candidates.mapM Class.ofValue = .ok listed := by
  induction candidates generalizing listed with
  | nil =>
    obtain rfl := List.map_eq_nil_iff.mp h.symm
    rfl
  | cons v rest ih =>
    cases listed with
    | nil => cases h
    | cons c listed =>
      obtain ⟨hv, hrest⟩ := List.cons_eq_cons.mp h
      rw [List.mapM_cons, ih hrest, Class.ofValue, hv]
      rfl

theorem ofValues_of_map_class? (h : candidates.map Value.class? = listed.map some) :
    ofValues candidates = ofClasses listed := by
  rw [ofValues, mapM_ofValue_of_map_class? h]
  rfl

/-- The candidates before the first that is no constructor are read, and the ones after it are not
looked at. -/
theorem mapM_ofValue_of_firstFailure
    (h : FirstFailure (fun w : Value => w.class?.isSome) candidates before first) :
    candidates.mapM Class.ofValue = .error (.notAClass first.datatype) := by
  induction h with
  | here hfirst =>
    have hnone := Option.isSome_eq_false_iff.mp hfirst
    rw [List.mapM_cons, Class.ofValue, Option.isNone_iff_eq_none.mp hnone]
    rfl
  | later hv _ ih =>
    obtain ⟨c, hc⟩ := Option.isSome_iff_exists.mp hv
    rw [List.mapM_cons, Class.ofValue, hc, ih]
    rfl

/-- The first candidate that constructs nothing is the one that is reported. -/
theorem ofValues_of_firstFailure
    (h : FirstFailure (fun w : Value => w.class?.isSome) candidates before first) :
    ofValues candidates = .error (.notAClass first.datatype) := by
  rw [ofValues, mapM_ofValue_of_firstFailure h]
  rfl

/-- Subclasses of what is listed add nothing to the list. -/
theorem descendsFrom_iff_of_subset (h : Population classes next) {listed listed' : List Class}
    (hlisted : listed ⊆ classes) (hlisted' : listed' ⊆ classes) (hsubset : listed ⊆ listed')
    (hbelow : ∀ d ∈ listed', ∃ c ∈ listed, d.isSubclassOf c = true) {v : Value} :
    v.DescendsFrom listed' ↔ v.DescendsFrom listed := by
  constructor
  · rintro ⟨cls, hcls, d, hd, hderives⟩
    obtain ⟨c, hc, hsub⟩ := hbelow d hd
    have hdc : d.DerivesFrom c := (h.isSubclassOf_iff (hlisted' hd) (hlisted hc)).mp hsub
    exact ⟨cls, hcls, c, hc, hderives.trans hdc⟩
  · rintro ⟨cls, hcls, c, hc, hderives⟩
    exact ⟨cls, hcls, c, hsubset hc, hderives⟩

/-- Being a subclass is a tree order on the classes that have been made, and it alone decides which
values have an instance check pass: those that are objects of a class below one that is listed. The
order of the list, repetitions in it, and subclasses of what is in it do not matter, nor does it
that constructors are listed in place of classes. What is listed and constructs nothing is reported
by its datatype. -/
theorem instance_checks_follow_ancestry (h : Population classes next) :
    Class.IsTreeOrder classes ∧
      (∀ listed ⊆ classes, listed ≠ [] → ∃ rule, ofClasses listed = .ok rule ∧
        (∀ v : Value, v.HasClassIn classes →
          (rule.violation? v = none ↔ v.DescendsFrom listed)) ∧
        (∀ listed' ⊆ classes, listed ⊆ listed' →
          (∀ d ∈ listed', ∃ c ∈ listed, d.isSubclassOf c = true) →
          ∃ rule', ofClasses listed' = .ok rule' ∧
            ∀ v : Value, v.HasClassIn classes →
              (rule'.violation? v = none ↔ rule.violation? v = none)) ∧
        ∀ candidates, candidates.map Value.class? = listed.map some →
          ofValues candidates = .ok rule ∧
          (Validator.instanceOfValues candidates).result = .ok (.ofRule rule.violation?) ∧
          (Validator.instanceOf listed).result = .ok (.ofRule rule.violation?) ∧
          (Inspector.instanceOfValues candidates).result = .ok (.ofRule rule.violation?) ∧
          (Inspector.instanceOf listed).result = .ok (.ofRule rule.violation?)) ∧
      ∀ candidates : List Value, (∃ w ∈ candidates, w.class? = none) →
        ∃ before first,
          FirstFailure (fun w : Value => w.class?.isSome) candidates before first ∧
          ofValues candidates = .error (.notAClass first.datatype) ∧
          (Validator.instanceOfValues candidates).result = .error (.notAClass first.datatype) ∧
          (Inspector.instanceOfValues candidates).result = .error (.notAClass first.datatype) := by
  refine ⟨h.isTreeOrder, fun listed hlisted hnonempty => ?_, fun candidates hplain => ?_⟩
  · have hrule : ofClasses listed = .ok ⟨listed, hnonempty⟩ := ofClasses_eq_ok_iff.mpr rfl
    have hverdict {v : Value} (hv : v.HasClassIn classes) :
        (InstanceRule.mk listed hnonempty).violation? v = none ↔ v.DescendsFrom listed :=
      violation?_eq_none_iff_descendsFrom h hlisted hv
    refine ⟨⟨listed, hnonempty⟩, hrule, fun v => hverdict, ?_, ?_⟩
    · intro listed' hlisted' hsubset hbelow
      have hnonempty' : listed' ≠ [] := by
        rintro rfl
        exact hnonempty (List.subset_nil.mp hsubset)
      refine ⟨⟨listed', hnonempty'⟩, ofClasses_eq_ok_iff.mpr rfl, fun v hv => ?_⟩
      rw [hverdict hv, violation?_eq_none_iff_descendsFrom h hlisted' hv]
      exact descendsFrom_iff_of_subset h hlisted hlisted' hsubset hbelow
    · intro candidates hcandidates
      have hvalues := (ofValues_of_map_class? hcandidates).trans hrule
      refine ⟨hvalues, ?_⟩
      simp only [Validator.instanceOfValues, Validator.instanceOf, Inspector.instanceOfValues,
        Inspector.instanceOf, compileValues_eq, compile_eq, hvalues, hrule, Build.result_bind,
        Build.result_ofExcept]
      exact ⟨rfl, rfl, rfl, rfl⟩
  · have hfails : ¬ ∀ w ∈ candidates, w.class?.isSome = true := by
      obtain ⟨w, hw, hnone⟩ := hplain
      intro hall
      have hsome := hall w hw
      rw [hnone] at hsome
      cases hsome
    obtain ⟨before, first, hfirst⟩ : ∃ before first,
        FirstFailure (fun w : Value => w.class?.isSome) candidates before first :=
      FirstFailure.exists_of_not_forall hfails
    have hvalues := ofValues_of_firstFailure hfirst
    refine ⟨before, first, hfirst, hvalues, ?_⟩
    simp only [Validator.instanceOfValues, Inspector.instanceOfValues, compileValues_eq, hvalues,
      Build.result_bind, Build.result_ofExcept]
    exact ⟨rfl, rfl⟩

/-- A kitten is told from a class of the same name as the animals it descends from, and a plain
function is told from constructors. -/
theorem instance_checks_follow_ancestry_kitten :
    let animal := Class.base 0 "Animal"
    let namesake := Class.base 2 "Animal"
    let cat := Class.derived 1 "Cat" animal
    let kitten := Class.derived 3 "Cat" cat
    let classes := [kitten, namesake, cat, animal]
    let tom := Value.object 4 (some kitten) []
    let plain := Value.function (.plain 5 "cat")
    Population classes 4 ∧ kitten.isSubclassOf animal = true ∧
      kitten.isSubclassOf namesake = false ∧
      (∃ rule, ofClasses [animal] = .ok rule ∧ rule.violation? tom = none ∧
        ∃ rule', ofClasses [cat, animal, animal] = .ok rule' ∧ rule'.violation? tom = none) ∧
      ofValues [.function (.constructor 6 cat), plain, .null] = .error (.notAClass .function) := by
  intro animal namesake cat kitten classes tom plain
  have hclasses : Population classes 4 :=
    .newClass "Cat" (some cat) (by simp) (.newClass "Animal" none (by simp)
      (.newClass "Cat" (some animal) (by simp) (.newClass "Animal" none (by simp) (.empty 0))))
  obtain ⟨-, hlists, hfails⟩ := instance_checks_follow_ancestry hclasses
  have htom : tom.HasClassIn classes := by
    intro cls hcls
    obtain rfl := Option.some.inj hcls
    exact List.mem_cons_self
  have hdescends : tom.DescendsFrom [animal] :=
    ⟨kitten, rfl, animal, List.mem_cons_self, .of_parent rfl (.of_parent rfl .refl)⟩
  obtain ⟨rule, hrule, hverdict, hsame, -⟩ := hlists [animal] (by simp [classes]) (by simp)
  have hpass := (hverdict tom htom).mpr hdescends
  have hbelow : ∀ d ∈ [cat, animal, animal], ∃ c ∈ [animal], d.isSubclassOf c = true := by
    simp only [List.mem_cons, List.not_mem_nil, or_false, or_self, forall_eq_or_imp, forall_eq,
      exists_eq_left]
    exact ⟨rfl, rfl⟩
  obtain ⟨rule', hrule', hverdict'⟩ :=
    hsame [cat, animal, animal] (by simp [classes]) (by simp) hbelow
  obtain ⟨before, first, hfirst, hvalues, -⟩ :=
    hfails [.function (.constructor 6 cat), plain, .null] ⟨plain, by simp, rfl⟩
  obtain ⟨-, rfl⟩ := hfirst.unique (.later rfl (.here rfl))
  exact ⟨hclasses, rfl, rfl,
    ⟨rule, hrule, hpass, rule', hrule', (hverdict' tom htom).mpr hpass⟩, hvalues⟩

end InstanceRule

end Conform
