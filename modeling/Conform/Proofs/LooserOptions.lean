import Conform.Proofs.Bounds
import Conform.Proofs.Position
import Conform.Proofs.Registry
import Conform.Rule.Membership

/-! Options that constrain less, and the rules that are made from them: there is a rule whenever
there was one before, and it passes whatever that one passed. -/

namespace Conform

namespace LengthRule

variable {length min max length' min' max' : Option Nat}

theorem Admits.loosen {n : Nat} (h : Admits length min max n)
    (hlength : ∀ a ∈ length', a ∈ length) (hmin : ∀ a ∈ min', ∃ b ∈ min, a ≤ b)
    (hmax : ∀ a ∈ max', ∃ b ∈ max, b ≤ a) : Admits length' min' max' n where
  exactly a ha := h.exactly a (hlength a ha)
  above a ha := by
    obtain ⟨b, hb, hab⟩ := hmin a ha
    exact Nat.le_trans hab (h.above b hb)
  below a ha := by
    obtain ⟨b, hb, hba⟩ := hmax a ha
    exact Nat.le_trans (h.below b hb) hba

/-- Bounds that are moved apart still make a rule, and it passes more lengths. -/
theorem exists_looser {rule : LengthRule} (h : ofBounds length min max = .ok rule)
    (hlength : ∀ a ∈ length', a ∈ length) (hmin : ∀ a ∈ min', ∃ b ∈ min, a ≤ b)
    (hmax : ∀ a ∈ max', ∃ b ∈ max, b ≤ a) :
    ∃ rule', ofBounds length' min' max' = .ok rule' ∧
      ∀ n, rule.violation? n = none → rule'.violation? n = none := by
  obtain ⟨n, hn⟩ := exists_ofBounds_iff.mp ⟨rule, h⟩
  obtain ⟨rule', h'⟩ := exists_ofBounds_iff.mpr ⟨n, hn.loosen hlength hmin hmax⟩
  refine ⟨rule', h', fun n hpass => ?_⟩
  exact (violation?_eq_none_iff h').mpr
    (((violation?_eq_none_iff h).mp hpass).loosen hlength hmin hmax)

end LengthRule

/-- What is still set was set before, and admits no less: the bounds may be wider. -/
structure StringOptions.IsLooserThan (o' o : StringOptions) : Prop where
  pattern : ∀ source ∈ o'.pattern, source ∈ o.pattern
  length : ∀ a ∈ o'.length, a ∈ o.length
  min : ∀ a ∈ o'.minLength, ∃ b ∈ o.minLength, a ≤ b
  max : ∀ a ∈ o'.maxLength, ∃ b ∈ o.maxLength, b ≤ a

namespace StringOptions

variable {o o' : StringOptions}

theorem Admits.loosen {s : String} (h : o.Admits s) (hlooser : o'.IsLooserThan o) :
    o'.Admits s where
  length := h.length.loosen hlooser.length hlooser.min hlooser.max
  pattern source hsource := h.pattern source (hlooser.pattern source hsource)

theorem Feasible.loosen (h : o.Feasible) (hlooser : o'.IsLooserThan o) : o'.Feasible where
  length := by
    obtain ⟨n, hn⟩ := h.length
    exact ⟨n, hn.loosen hlooser.length hlooser.min hlooser.max⟩
  pattern source hsource := h.pattern source (hlooser.pattern source hsource)

end StringOptions

/-- The rule of looser options passes more strings. -/
theorem StringRule.exists_looser {o o' : StringOptions} {rule : StringRule}
    (h : ofOptions o = .ok rule) (hlooser : o'.IsLooserThan o) :
    ∃ rule', ofOptions o' = .ok rule' ∧
      ∀ v, rule.violation? v = none → rule'.violation? v = none := by
  obtain ⟨rule', h'⟩ := exists_ofOptions_iff.mpr
    ((exists_ofOptions_iff.mp ⟨rule, h⟩).loosen hlooser)
  refine ⟨rule', h', fun v hpass => ?_⟩
  cases v with
  | string s =>
    exact (stringViolation?_eq_none_iff h').mpr
      (((stringViolation?_eq_none_iff h).mp hpass).loosen hlooser)
  | _ => cases hpass

/-- What is still set was set before, and the bounds may lie further out. -/
structure NumberOptions.IsLooserThan (o' o : NumberOptions) : Prop where
  min : ∀ a ∈ o'.min, ∃ b ∈ o.min, a = b ∨ a.lt b = true
  max : ∀ a ∈ o'.max, ∃ b ∈ o.max, a = b ∨ b.lt a = true
  integer : o'.integer = true → o.integer = true

namespace NumberOptions

variable {o o' : NumberOptions}

theorem IsLooserThan.above (h : o'.IsLooserThan o) {n : Number}
    (hn : ∀ a ∈ o.min, n.lt a = false) : ∀ a ∈ o'.min, n.lt a = false := by
  intro a ha
  obtain ⟨b, hb, rfl | hab⟩ := h.min a ha
  · exact hn a hb
  · refine Bool.eq_false_iff.mpr fun hna => ?_
    have hnb : n.lt b = false := hn b hb
    rw [Number.lt_trans hna hab] at hnb
    cases hnb

theorem IsLooserThan.below (h : o'.IsLooserThan o) {n : Number}
    (hn : ∀ a ∈ o.max, a.lt n = false) : ∀ a ∈ o'.max, a.lt n = false := by
  intro a ha
  obtain ⟨b, hb, rfl | hba⟩ := h.max a ha
  · exact hn a hb
  · refine Bool.eq_false_iff.mpr fun han => ?_
    have hbn : b.lt n = false := hn b hb
    rw [Number.lt_trans hba han] at hbn
    cases hbn

theorem Admits.loosen {n : Number} (h : o.Admits n) (hlooser : o'.IsLooserThan o) :
    o'.Admits n where
  integral hinteger := h.integral (hlooser.integer hinteger)
  above := hlooser.above h.above
  below := hlooser.below h.below

theorem Ordered.loosen (h : o.Ordered) (hlooser : o'.IsLooserThan o) : o'.Ordered where
  min a ha := by
    obtain ⟨b, hb, rfl | hab⟩ := hlooser.min a ha
    · exact h.min a hb
    · exact (Number.isNaN_of_lt hab).1
  max a ha := by
    obtain ⟨b, hb, rfl | hba⟩ := hlooser.max a ha
    · exact h.max a hb
    · exact (Number.isNaN_of_lt hba).2
  order a ha b hb := by
    have hmin : ∀ d ∈ o.max, d.lt a = false := by
      intro d hd
      exact hlooser.above (fun c hc => h.order c hc d hd) a ha
    exact hlooser.below hmin b hb

end NumberOptions

/-- The rule of looser options passes more numbers. -/
theorem NumberRule.exists_looser {o o' : NumberOptions} {rule : NumberRule}
    (h : ofOptions o = .ok rule) (hlooser : o'.IsLooserThan o) :
    ∃ rule', ofOptions o' = .ok rule' ∧
      ∀ v, rule.violation? v = none → rule'.violation? v = none := by
  obtain ⟨hordered, rfl⟩ := ofOptions_eq_ok_iff.mp h
  refine ⟨⟨o'⟩, ofOptions_eq_ok_iff.mpr ⟨hordered.loosen hlooser, rfl⟩, fun v hpass => ?_⟩
  cases v with
  | number n =>
    have hadmits : o.Admits n := numberViolation?_eq_none_iff.mp hpass
    exact numberViolation?_eq_none_iff.mpr (hadmits.loosen hlooser)
  | _ => cases hpass

theorem ChoiceRule.violation?_eq_none_iff {rule : ChoiceRule} {v : Value} :
    rule.violation? v = none ↔ ∃ u ∈ rule.choices, u.strictEquals v = true := by
  simp [violation?]

variable {r : Registry}

/-- Each class is still there, or else an ancestor of it is. -/
def Class.Covered (r : Registry) (classes classes' : List Class) : Prop :=
  ∀ c ∈ classes, c ∈ classes' ∨ c.IsIn r ∧ ∃ d ∈ classes', d ∈ c.lineage

/-- Instances of a class are instances of its ancestors. -/
theorem Value.IsIn.instanceOf_ancestor {v : Value} (hv : v.IsIn r) {c d : Class} (hc : c.IsIn r)
    (hd : d ∈ c.lineage) (h : v.instanceOf c = true) : v.instanceOf d = true := by
  cases v with
  | object id cls entries =>
    cases cls with
    | none => cases h
    | some e =>
      have he : e.IsIn r := hv.2.1 e rfl
      have hce : c ∈ e.lineage := (he.isSubclassOf_iff hc).mp h
      exact (he.isSubclassOf_iff (hc.ancestor hd)).mpr (Class.lineage_subset hce hd)
  | _ => cases h

namespace InstanceRule

variable {classes classes' : List Class}

theorem violation?_eq_none_iff {rule : InstanceRule} {v : Value} :
    rule.violation? v = none ↔ ∃ c ∈ rule.classes, v.instanceOf c = true := by
  simp [violation?]

theorem ofClasses_eq_ok_iff {rule : InstanceRule} :
    ofClasses classes = .ok rule ↔ rule.classes = classes := by
  unfold ofClasses
  split
  · rename_i hnil
    simp only [reduceCtorEq, false_iff]
    rintro rfl
    exact rule.nonempty hnil
  · constructor
    · intro h
      cases h
      rfl
    · rintro rfl
      rfl

/-- A list that covers the classes of another makes a rule that passes more. -/
theorem exists_covering {rule : InstanceRule} (h : ofClasses classes = .ok rule)
    (hcovered : Class.Covered r classes classes') :
    ∃ rule', ofClasses classes' = .ok rule' ∧
      ∀ v : Value, v.IsIn r → rule.violation? v = none → rule'.violation? v = none := by
  obtain rfl := ofClasses_eq_ok_iff.mp h
  have hnonempty : classes' ≠ [] := by
    rintro rfl
    obtain ⟨c, hc⟩ := List.exists_mem_of_ne_nil _ rule.nonempty
    rcases hcovered c hc with hc | ⟨-, d, hd, -⟩
    · cases hc
    · cases hd
  refine ⟨⟨classes', hnonempty⟩, ofClasses_eq_ok_iff.mpr rfl, fun v hv hpass => ?_⟩
  obtain ⟨c, hc, hinstance⟩ := violation?_eq_none_iff.mp hpass
  refine violation?_eq_none_iff.mpr ?_
  rcases hcovered c hc with hc' | ⟨hin, d, hd, hlineage⟩
  · exact ⟨c, hc', hinstance⟩
  · exact ⟨d, hd, hv.instanceOf_ancestor hin hlineage hinstance⟩

end InstanceRule

end Conform
