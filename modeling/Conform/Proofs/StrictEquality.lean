import Conform.Prebuilt
import Conform.Proofs.Registry
import Conform.Proofs.Shape

/-! Strict equality of values whose identities determine their contents: a partial equivalence that
no checker sees through which is put together from what the library has. -/

namespace Conform

variable {r : Registry}

namespace Function

variable {f g : Function}

theorem same_self (f : Function) : f.same f = true := by
  cases f with
  | plain id name => exact beq_self_eq_true id
  | constructor id cls => exact cls.same_self

/-- Two distinct functions are the same only if they construct one class. -/
theorem IsIn.eq_of_same (hf : f.IsIn r) (hg : g.IsIn r) (h : f.same g = true) :
    f = g ∨ ∃ i j c, f = constructor i c ∧ g = constructor j c := by
  cases f with
  | plain i name => exact .inl (hf.eq_of_id hg (eq_of_beq h))
  | constructor i c =>
    cases g with
    | plain j name => exact .inl (hf.eq_of_id hg (eq_of_beq h))
    | constructor j d =>
      have hcd : c = d := (hf.2 c rfl).eq_of_same (hg.2 d rfl) h
      subst hcd
      exact .inr ⟨i, j, c, rfl, rfl⟩

end Function

namespace Value

variable {u v w : Value}

/-- Values that the registry gives no means to tell apart: a value and itself, numbers at one place,
and constructors of one class. -/
inductive Same (r : Registry) : Value → Value → Prop where
  | refl (v : Value) : Same r v v
  | number {a b : Number} : a.position = b.position → Same r (.number a) (.number b)
  | constructor {i j : Nat} {c : Class} :
      r.functions i = some (.constructor i c) → r.functions j = some (.constructor j c) →
      Same r (.function (.constructor i c)) (.function (.constructor j c))

namespace Same

theorem symm (h : v.Same r w) : w.Same r v := by
  cases h with
  | refl => exact .refl _
  | number h => exact .number h.symm
  | constructor hi hj => exact .constructor hj hi

theorem trans (h : u.Same r v) (h' : v.Same r w) : u.Same r w := by
  cases h with
  | refl => exact h'
  | number h =>
    cases h' with
    | refl => exact .number h
    | number h' => exact .number (h.trans h')
  | constructor hi _ =>
    cases h' with
    | refl => exact .constructor hi ‹_›
    | constructor _ hj => exact .constructor hi hj

/-- Nothing is the same as NaN but NaN. -/
theorem eq_nan (h : v.Same r w) (hw : w = .number .nan) : v = .number .nan := by
  subst hw
  cases h with
  | refl => rfl
  | number h =>
    rename_i a
    cases a with
    | nan => rfl
    | infinity _ | finite _ _ => cases h

end Same

theorem strictEquals_self (v : Value) : v.strictEquals v = true ↔ v ≠ .number .nan := by
  cases v with
  | number n => cases n <;> simp [strictEquals, Number.equals, Number.position]
  | function f => simpa [strictEquals] using f.same_self
  | _ => simp [strictEquals]

/-- Values of one registry that are strictly equal are the same. -/
theorem same_of_strictEquals (hv : v.IsIn r) (hw : w.IsIn r) (h : v.strictEquals w = true) :
    v.Same r w := by
  cases v <;> cases w <;> try cases h
  case undefined.undefined.refl => exact .refl _
  case null.null.refl => exact .refl _
  case boolean.boolean =>
    obtain rfl := eq_of_beq h
    exact .refl _
  case number.number => exact .number (Number.position_eq_of_equals h)
  case bigint.bigint =>
    obtain rfl := eq_of_beq h
    exact .refl _
  case string.string =>
    obtain rfl := eq_of_beq h
    exact .refl _
  -- From here on the identities are equal, and the registry says what they stand for.
  case symbol.symbol =>
    obtain rfl := eq_of_beq h
    obtain rfl := Option.some.inj (hv.symm.trans hw)
    exact .refl _
  case array.array =>
    obtain rfl := eq_of_beq h
    obtain rfl := Option.some.inj (hv.1.symm.trans hw.1)
    exact .refl _
  case object.object =>
    obtain rfl := eq_of_beq h
    cases Option.some.inj (hv.1.symm.trans hw.1)
    exact .refl _
  case regexp.regexp =>
    obtain rfl := eq_of_beq h
    obtain rfl := Option.some.inj (hv.symm.trans hw)
    exact .refl _
  case function.function =>
    rcases hv.eq_of_same hw h with rfl | ⟨i, j, c, rfl, rfl⟩
    · exact .refl _
    · exact .constructor hv.1 hw.1

/-- In one registry, strict equality is sameness without NaN. -/
theorem strictEquals_iff (hv : v.IsIn r) (hw : w.IsIn r) :
    v.strictEquals w = true ↔ v.Same r w ∧ w ≠ .number .nan := by
  constructor
  · intro h
    have hsame := same_of_strictEquals hv hw h
    refine ⟨hsame, ?_⟩
    rintro rfl
    obtain rfl := hsame.eq_nan rfl
    exact (strictEquals_self _).mp h rfl
  · rintro ⟨hsame, hne⟩
    cases hsame with
    | refl => exact (strictEquals_self v).mpr hne
    | @number a b h =>
      have hb : b.isNaN = false := by
        cases b with
        | nan => exact absurd rfl hne
        | infinity _ | finite _ _ => rfl
      exact (Number.position_eq_iff.mp h).resolve_right fun hnan => by simp [hb] at hnan
    | @constructor i j c _ _ => exact c.same_self

theorem strictEquals_symm (hv : v.IsIn r) (hw : w.IsIn r) (h : v.strictEquals w = true) :
    w.strictEquals v = true := by
  obtain ⟨hsame, hne⟩ := (strictEquals_iff hv hw).mp h
  exact (strictEquals_iff hw hv).mpr ⟨hsame.symm, fun hnan => hne (hsame.symm.eq_nan hnan)⟩

/-- Strict equality is transitive on the values of one registry. -/
theorem strictEquals_trans (hu : u.IsIn r) (hv : v.IsIn r) (hw : w.IsIn r)
    (huv : u.strictEquals v = true) (hvw : v.strictEquals w = true) :
    u.strictEquals w = true := by
  obtain ⟨hsame, -⟩ := (strictEquals_iff hu hv).mp huv
  obtain ⟨hsame', hne⟩ := (strictEquals_iff hv hw).mp hvw
  exact (strictEquals_iff hu hw).mpr ⟨hsame.trans hsame', hne⟩

namespace Same

/-- Being the same is a likeness: it is kept under every key. -/
theorem likeness (r : Registry) (keys : List String) : Likeness (Same r) keys where
  resembles h := by
    cases h with
    | refl => exact .refl _
    | number h => exact .number h
    | constructor _ _ => exact .function _ _
  items h := by
    cases h
    exact List.forall₂_same.mpr fun v _ => .refl v
  property _ h := by
    cases h <;> exact .refl _

/-- A value in the registry equals both or neither. -/
theorem strictEquals_eq (h : v.Same r w) (hu : u.IsIn r) : u.strictEquals v = u.strictEquals w := by
  cases h with
  | refl => rfl
  | number h =>
    cases u with
    | number c => simp only [strictEquals, Number.equals, h]
    | _ => rfl
  | @constructor i j c hi hj =>
    cases u with
    | function f =>
      cases f with
      | constructor k d => rfl
      | plain k name =>
        -- The identity of a plain function is that of no constructor.
        have hne {n : Nat} (hn : r.functions n = some (.constructor n c)) : (k == n) = false := by
          refine beq_false_of_ne ?_
          rintro rfl
          cases hu.1.symm.trans hn
        exact (hne hi).trans (hne hj).symm
    | _ => rfl

theorem instanceOf_eq (h : v.Same r w) (c : Class) : v.instanceOf c = w.instanceOf c := by
  cases h <;> rfl

theorem text_eq (h : v.Same r w) : v.text = w.text := by
  cases h with
  | refl => rfl
  | number h => exact Number.text_eq_of_position h
  | constructor _ _ => rfl

theorem describe_eq (h : v.Same r w) : v.describe = w.describe := by
  rw [describe, describe, h.text_eq]

theorem predicate_eq (h : v.Same r w) {accepts : Value → Bool}
    (hp : accepts ∈ Prebuilt.predicates.map (·.2)) : accepts v = accepts w := by
  have hall : ∀ p ∈ Prebuilt.predicates, p.2 v = p.2 w := by
    simp only [Prebuilt.predicates, List.forall_mem_cons]
    cases h with
    | refl => exact ⟨rfl, rfl, rfl, rfl, rfl, rfl, rfl, rfl, rfl, rfl, rfl, rfl, rfl, by simp⟩
    | @number a b h =>
      have hinteger : isInteger (.number a) = isInteger (.number b) :=
        Number.isIntegral_eq_of_position h
      have htruthy : isTruthy (.number a) = isTruthy (.number b) := by
        simp only [isTruthy, Number.isZero, Number.isNaN, h]
      exact ⟨rfl, rfl, rfl, rfl, rfl, rfl, rfl, rfl, rfl, rfl, hinteger, rfl, htruthy, by simp⟩
    | constructor _ _ =>
      exact ⟨rfl, rfl, rfl, rfl, rfl, rfl, rfl, rfl, rfl, rfl, rfl, rfl, rfl, by simp⟩
  obtain ⟨p, hmem, rfl⟩ := List.mem_map.mp hp
  exact hall p hmem

end Same

end Value

namespace Inspector

/-- A rule on choices does not tell apart values that are the same. -/
theorem blind_choices {rule : ChoiceRule} (h : ∀ u ∈ rule.choices, u.IsIn r) :
    (ofRule rule.violation?).Blind (Value.Same r) := by
  refine blind_ofRule fun v w hvw => ?_
  have hany : rule.choices.any (·.strictEquals v) = rule.choices.any (·.strictEquals w) := by
    rw [Bool.eq_iff_iff, List.any_eq_true, List.any_eq_true]
    exact exists_congr fun u => and_congr_right fun hu => by rw [hvw.strictEquals_eq (h u hu)]
  simp only [ChoiceRule.violation?, hany]
  split
  · rfl
  · exact congrArg (fun text => some (ErrorKind.error,
      "expected one of [" ++ ", ".intercalate (rule.choices.map Value.describe) ++
        "], received " ++ text)) hvw.describe_eq

theorem blind_instances (rule : InstanceRule) :
    (ofRule rule.violation?).Blind (Value.Same r) := by
  refine blind_ofRule fun v w hvw => ?_
  have hany : rule.classes.any v.instanceOf = rule.classes.any w.instanceOf := by
    rw [funext hvw.instanceOf_eq]
  simp only [InstanceRule.violation?, hany]
  split
  · rfl
  · exact congrArg (fun text => some (ErrorKind.typeError,
      "expected instance of " ++ " or ".intercalate (rule.classes.map Class.name) ++
        ", received " ++ text)) hvw.describe_eq

theorem blind_predicate {accepts : Value → Bool}
    (h : accepts ∈ Prebuilt.predicates.map (·.2)) :
    (ofValidator (.ofPredicate accepts)).Blind (Value.Same r) :=
  blind_ofValidator fun _ _ hvw => hvw.predicate_eq h

end Inspector

namespace Checker

/-- Whether a description calls, on its own account, for nothing but what the library has: its
values are in the registry, and its predicate, if it has one, is one of the library. -/
def IsNative (r : Registry) : Checker → Prop
  | oneOf choices => ∀ u ∈ choices, u.IsIn r
  | oneOfValue choices => choices.IsIn r
  | custom accepts => accepts ∈ Prebuilt.predicates.map (·.2)
  | probe _ _ | attempt _ _ | reporting _ => False
  | _ => True

/-- No check that the library has tells apart values that are the same. -/
theorem blind_of_isNative {d : Checker} (hd : d.IsNative r) (hshape : d.isShape = false)
    {i : Inspector} (hi : d.inspector.result = .ok i) : i.Blind (Value.Same r) := by
  cases d with
  | oneOf choices =>
    cases hi
    exact Inspector.blind_choices hd
  | oneOfValue choices =>
    obtain ⟨rule, hrule, hi⟩ := Build.exists_of_result_bind hi
    cases hi
    refine Inspector.blind_choices ?_
    cases choices with
    | array id items =>
      cases hrule
      exact Value.allIn_iff.mp hd.2
    | _ => cases hrule
  | instanceOf classes | instanceOfValues candidates =>
    obtain ⟨rule, -, hi⟩ := Build.exists_of_result_bind hi
    cases hi
    exact Inspector.blind_instances rule
  | custom accepts =>
    cases hi
    exact Inspector.blind_predicate hd
  | probe _ _ | attempt _ _ | reporting _ => cases hd
  | _ => cases hshape

end Checker

/-- Among values in one registry, strict equality is symmetric and transitive, and each value but
NaN equals itself. Whatever is built of the library alone reports the same of equal values. -/
theorem Value.strictEquals_is_unseen {u v w : Value} (hu : u.IsIn r) (hv : v.IsIn r)
    (hw : w.IsIn r) :
    v.strictEquals w = w.strictEquals v ∧
    (u.strictEquals v = true → v.strictEquals w = true → u.strictEquals w = true) ∧
    (v.strictEquals v = true ↔ v ≠ .number .nan) ∧
    (v.strictEquals w = true → ∀ (c : Checker) (i : Inspector), (∀ d ∈ c.nodes, d.IsNative r) →
      c.inspector.result = .ok i →
        (i.inspect v).value.passed = (i.inspect w).value.passed ∧
        (i.inspect v).value.kind = (i.inspect w).value.kind ∧
        (i.inspect v).value.message.text = (i.inspect w).value.message.text) := by
  refine ⟨?_, strictEquals_trans hu hv hw, strictEquals_self v, ?_⟩
  · exact Bool.eq_iff_iff.mpr ⟨strictEquals_symm hv hw, strictEquals_symm hw hv⟩
  · intro h c i hnative hi
    have hblind : i.Blind (Same r) :=
      Checker.blind_of_nodes (Same.likeness r c.keys) c (List.Subset.refl _)
        (fun d hd hshape j hj => Checker.blind_of_isNative (hnative d hd) hshape hj) hi
    exact hblind.reports_eq (same_of_strictEquals hv hw h)

/-- A registry with one class, which any number of functions construct. -/
def Registry.points : Registry where
  symbols _ := none
  arrays _ := none
  objects _ := none
  patterns _ := none
  functions i := some (.constructor i (.base 0 "Point"))
  classes i := if i = 0 then some (.base 0 "Point") else none

/-- Three constructors of one class. They are functions and in the enumeration, and no instances. -/
theorem Value.strictEquals_is_unseen_points :
    let point (i : Nat) : Value := .function (.constructor i (.base 0 "Point"))
    let c : Checker := .optional (.all
      [.ofValidator (.custom Value.isFunction), .oneOf [.number .nan, point 1],
        .instanceOf [.base 0 "Point"]])
    (∀ i, (point i).IsIn .points) ∧ (∀ d ∈ c.nodes, d.IsNative .points) ∧
      (point 1).strictEquals (point 2) = true ∧ (point 2).strictEquals (point 3) = true ∧
      (point 1).strictEquals (point 3) = true ∧
      ∃ i, c.inspector.result = .ok i ∧ (i.inspect (point 1)).value.passed = false ∧
        (i.inspect (point 1)).value.message.text = (i.inspect (point 2)).value.message.text := by
  intro point c
  have hpoint : ∀ i, (point i).IsIn .points := by
    intro i
    refine ⟨rfl, fun cls hcls d hd => ?_⟩
    cases hcls
    obtain rfl := List.mem_singleton.mp hd
    rfl
  have hnative : ∀ d ∈ c.nodes, d.IsNative .points := by
    intro d hd
    simp only [c, Checker.nodes, Checker.nodesOf, List.mem_cons, List.cons_append,
      List.nil_append, List.not_mem_nil, or_false] at hd
    rcases hd with rfl | rfl | rfl | rfl | rfl | rfl
    · trivial
    · trivial
    · trivial
    · exact List.mem_of_getElem? (i := 4) rfl
    · intro u hu
      rcases List.mem_cons.mp hu with rfl | hu
      · trivial
      · obtain rfl := List.mem_singleton.mp hu
        exact hpoint 1
    · trivial
  obtain ⟨-, htrans, -, -⟩ := strictEquals_is_unseen (hpoint 1) (hpoint 2) (hpoint 3)
  obtain ⟨-, -, -, hreports⟩ := strictEquals_is_unseen (hpoint 1) (hpoint 1) (hpoint 2)
  exact ⟨hpoint, hnative, rfl, rfl, htrans rfl rfl, _, rfl, rfl, (hreports rfl c _ hnative rfl).2.2⟩

end Conform
