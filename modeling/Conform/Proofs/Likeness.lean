import Conform.Proofs.FirstFailure
import Conform.Proofs.Position
import Mathlib.Data.List.Forall2

/-! Values that inspectors do not tell apart. A relation on values that shows no more than what is
alike about them carries over to the reports of every way of combining inspectors. -/

namespace Conform

namespace Report

variable {r s : Report}

/-- What a failing report says: its kind and its text. -/
def complaint? : Report → Option (ErrorKind × String)
  | pass => none
  | fail kind message => some (kind, message.text)

/-- A report passes just if there is nothing to complain of. -/
theorem passed_eq_isNone (r : Report) : r.passed = r.complaint?.isNone := by
  cases r <;> rfl

theorem passed_eq_of_complaint (h : r.complaint? = s.complaint?) : r.passed = s.passed := by
  rw [passed_eq_isNone, passed_eq_isNone, h]

theorem kind_eq_of_complaint (h : r.complaint? = s.complaint?) : r.kind = s.kind := by
  cases r with
  | pass =>
    cases s with
    | pass => rfl
    | fail _ _ => cases h
  | fail _ _ =>
    cases s with
    | pass => cases h
    | fail _ _ => exact congrArg Prod.fst (Option.some.inj h)

theorem text_eq_of_complaint (h : r.complaint? = s.complaint?) :
    r.message.text = s.message.text := by
  cases r with
  | pass =>
    cases s with
    | pass => rfl
    | fail _ _ => cases h
  | fail _ _ =>
    cases s with
    | pass => cases h
    | fail _ _ => exact congrArg Prod.snd (Option.some.inj h)

/-- A prefix changes the message of a failing report, and nothing else. -/
theorem complaint?_within (r : Report) (wrap : String → String) :
    (r.within wrap).complaint? = r.complaint?.map fun c => (c.1, wrap c.2) := by
  cases r <;> rfl

theorem complaint?_within_congr (h : r.complaint? = s.complaint?) (wrap : String → String) :
    (r.within wrap).complaint? = (s.within wrap).complaint? := by
  rw [complaint?_within, complaint?_within, h]

end Report

/-- Values of one variant. What is of a simple type has the same contents, up to the sign of zero;
of everything else nothing is asked. -/
inductive Value.Resembles : Value → Value → Prop where
  | undefined : Resembles .undefined .undefined
  | null : Resembles .null .null
  | boolean (b : Bool) : Resembles (.boolean b) (.boolean b)
  | number {a b : Number} : a.position = b.position → Resembles (.number a) (.number b)
  | bigint (n : Int) : Resembles (.bigint n) (.bigint n)
  | string (s : String) : Resembles (.string s) (.string s)
  | symbol (i j : Nat) (d e : String) : Resembles (.symbol i d) (.symbol j e)
  | array (i j : Nat) (xs ys : List Value) : Resembles (.array i xs) (.array j ys)
  | object (i j : Nat) (c d : Option Class) (es fs : List (String × Value)) :
      Resembles (.object i c es) (.object j d fs)
  | regexp (i j : Nat) (p q : Pattern) : Resembles (.regexp i p) (.regexp j q)
  | function (f g : Function) : Resembles (.function f) (.function g)

namespace Value.Resembles

variable {v w : Value}

protected theorem refl (v : Value) : v.Resembles v := by
  cases v <;> constructor
  rfl

theorem datatype_eq (h : v.Resembles w) : v.datatype = w.datatype := by
  cases h <;> rfl

theorem isNull_eq (h : v.Resembles w) : v.isNull = w.isNull := by
  cases h <;> rfl

theorem isNullish_eq (h : v.Resembles w) : v.isNullish = w.isNullish := by
  cases h <;> rfl

theorem isDefined_eq (h : v.Resembles w) : v.isDefined = w.isDefined := by
  cases h <;> rfl

theorem isBoolean_eq (h : v.Resembles w) : v.isBoolean = w.isBoolean := by
  cases h <;> rfl

theorem isFunction_eq (h : v.Resembles w) : v.isFunction = w.isFunction := by
  cases h <;> rfl

/-- A rule for texts has the same against both. -/
theorem stringViolation_eq (h : v.Resembles w) (rule : StringRule) :
    rule.violation? v = rule.violation? w := by
  cases h <;> rfl

theorem datatypeViolation_eq (h : v.Resembles w) (rule : DatatypeRule) :
    rule.violation? v = rule.violation? w := by
  rw [DatatypeRule.violation?, DatatypeRule.violation?, h.datatype_eq]

end Value.Resembles

/-- A rule for numbers says the same of both numbers at one place. -/
theorem NumberRule.complaint?_numberViolation {a b : Number} (h : a.position = b.position)
    (rule : NumberRule) :
    (Report.ofViolation? (rule.numberViolation? a)).complaint? =
      (Report.ofViolation? (rule.numberViolation? b)).complaint? := by
  have htext := Number.text_eq_of_position h
  have hinteger : (Report.ofViolation (.notInteger a)).complaint? =
      (Report.ofViolation (.notInteger b)).complaint? :=
    congrArg (fun text => some (ErrorKind.typeError, "expected integer, received " ++ text)) htext
  have hsmall (min : Number) : (Report.ofViolation (.tooSmall min a)).complaint? =
      (Report.ofViolation (.tooSmall min b)).complaint? :=
    congrArg (fun text => some (ErrorKind.error,
      "expected minimum of " ++ min.text ++ ", received " ++ text)) htext
  have hlarge (max : Number) : (Report.ofViolation (.tooLarge max a)).complaint? =
      (Report.ofViolation (.tooLarge max b)).complaint? :=
    congrArg (fun text => some (ErrorKind.error,
      "expected maximum of " ++ max.text ++ ", received " ++ text)) htext
  have hmin : (fun c => a.lt c) = fun c => b.lt c := by
    funext c
    rw [Number.lt, Number.lt, h]
  have hmax : (fun c : Number => c.lt a) = fun c => c.lt b := by
    funext c
    rw [Number.lt, Number.lt, h]
  simp only [numberViolation?, hmin, hmax, Number.isIntegral_eq_of_position h]
  cases rule.options.integer && !b.isIntegral with
  | true => exact hinteger
  | false =>
    cases rule.options.min.filter (b.lt ·) with
    | some min => exact hsmall min
    | none =>
      cases rule.options.max.filter (·.lt b) with
      | some max => exact hlarge max
      | none => rfl

/-- A relation under which values resemble each other, and so do what stands at one place in both:
their elements, and what they have under the keys. -/
structure Value.Likeness (R : Value → Value → Prop) (keys : List String) : Prop where
  resembles {v w : Value} : R v w → v.Resembles w
  items {i j : Nat} {xs ys : List Value} : R (.array i xs) (.array j ys) → List.Forall₂ R xs ys
  property {v w : Value} {key : String} : key ∈ keys → R v w → R (v.property key) (w.property key)

namespace Inspector

/-- The inspector says the same of values that are related. -/
def Blind (R : Value → Value → Prop) (i : Inspector) : Prop :=
  ∀ v w, R v w → (i.run v).value.complaint? = (i.run w).value.complaint?

variable {R : Value → Value → Prop} {keys : List String} {v w : Value}

theorem Blind.passed_eq {i : Inspector} (h : i.Blind R) (hvw : R v w) :
    (i.run v).value.passed = (i.run w).value.passed :=
  Report.passed_eq_of_complaint (h v w hvw)

/-- An inspector that is blind to what tells two values apart reports the same of both. -/
theorem Blind.reports_eq {i : Inspector} (h : i.Blind R) (hvw : R v w) :
    (i.inspect v).value.passed = (i.inspect w).value.passed ∧
      (i.inspect v).value.kind = (i.inspect w).value.kind ∧
      (i.inspect v).value.message.text = (i.inspect w).value.message.text := by
  have hcomplaint := h v w hvw
  rw [← value_inspect, ← value_inspect] at hcomplaint
  exact ⟨Report.passed_eq_of_complaint hcomplaint, Report.kind_eq_of_complaint hcomplaint,
    Report.text_eq_of_complaint hcomplaint⟩

/-- A rule that says the same of both values is blind to what tells them apart. -/
theorem blind_ofRule {violation? : Value → Option Violation}
    (h : ∀ v w, R v w → (Report.ofViolation? (violation? v)).complaint? =
      (Report.ofViolation? (violation? w)).complaint?) : (ofRule violation?).Blind R := h

theorem blind_ofValidator {p : Validator}
    (h : ∀ v w, R v w → (p.validate v).value = (p.validate w).value) : (ofValidator p).Blind R := by
  intro v w hvw
  change (Report.ofBool (p.validate v).value).complaint? = (Report.ofBool _).complaint?
  rw [h v w hvw]

theorem blind_within {i : Inspector} (h : i.Blind R) (wrap : String → String) :
    (i.within wrap).Blind R := by
  intro v w hvw
  change ((i.inspect v).value.within wrap).complaint? = ((i.inspect w).value.within wrap).complaint?
  rw [value_inspect, value_inspect]
  exact Report.complaint?_within_congr (h v w hvw) wrap

theorem blind_all {inspectors : List Inspector} (h : ∀ i ∈ inspectors, i.Blind R) :
    (all inspectors).Blind R := by
  intro v w hvw
  induction inspectors with
  | nil => rfl
  | cons i rest ih =>
    obtain ⟨hi, hrest⟩ := List.forall_mem_cons.mp h
    rw [value_all_cons, value_all_cons, hi.passed_eq hvw]
    split
    · exact ih hrest
    · exact hi v w hvw

/-- Choices fail alike if their alternatives do. -/
theorem complaint?_any_go {inspectors : List Inspector} (h : ∀ i ∈ inspectors, i.Blind R)
    (hvw : R v w) {last last' : Report} (hlast : last.complaint? = last'.complaint?) :
    (any.go last inspectors v).value.complaint? = (any.go last' inspectors w).value.complaint? := by
  induction inspectors generalizing last last' with
  | nil => exact hlast
  | cons i rest ih =>
    obtain ⟨hi, hrest⟩ := List.forall_mem_cons.mp h
    rw [value_any_go_cons, value_any_go_cons, hi.passed_eq hvw]
    split
    · exact hi v w hvw
    · exact ih hrest (Report.complaint?_within_congr (hi v w hvw) _)

theorem blind_any {inspectors : List Inspector} (h : ∀ i ∈ inspectors, i.Blind R) :
    (any inspectors).Blind R := by
  intro v w hvw
  exact complaint?_any_go h hvw rfl

theorem blind_optional {i : Inspector} (hR : Value.Likeness R keys) (h : i.Blind R) :
    i.optional.Blind R := by
  intro v w hvw
  rw [value_optional, value_optional, (hR.resembles hvw).isNullish_eq]
  split
  · rfl
  · exact h v w hvw

/-- Lists of values that are alike one by one fail at the same element. -/
theorem complaint?_elements {element : Inspector} (h : element.Blind R) {xs ys : List Value}
    (hxy : List.Forall₂ R xs ys) (start : Nat) :
    (element.elements start xs).value.complaint? =
      (element.elements start ys).value.complaint? := by
  induction hxy generalizing start with
  | nil => rfl
  | cons hvw _ ih =>
    rw [value_elements_cons, value_elements_cons, h.passed_eq hvw]
    split
    · exact ih (start + 1)
    · exact Report.complaint?_within_congr (h _ _ hvw) _

/-- Of an array no more is seen than its length and what is seen of its elements. -/
theorem blind_arrayWith {element : Option Inspector} (hR : Value.Likeness R keys)
    (h : ∀ i ∈ element, i.Blind R) (length : LengthRule) :
    (arrayWith length element).Blind R := by
  intro v w hvw
  cases hR.resembles hvw with
  | array i j xs ys =>
    have hxy := hR.items hvw
    simp only [arrayWith, hxy.length_eq]
    cases length.violation? ys.length with
    | some violation => rfl
    | none =>
      cases element with
      | none => rfl
      | some element => exact complaint?_elements (h element rfl) hxy 0
  | _ => rfl

/-- Values whose listed properties are alike fail at the same property. -/
theorem complaint?_properties {properties : List (String × Inspector)}
    (hR : Value.Likeness R keys) (hkeys : ∀ p ∈ properties, p.1 ∈ keys)
    (h : ∀ p ∈ properties, p.2.Blind R) (hvw : R v w) :
    (object.properties properties v).value.complaint? =
      (object.properties properties w).value.complaint? := by
  induction properties with
  | nil => rfl
  | cons p rest ih =>
    obtain ⟨hkey, hkeys⟩ := List.forall_mem_cons.mp hkeys
    obtain ⟨hp, hrest⟩ := List.forall_mem_cons.mp h
    have hproperty := hR.property hkey hvw
    rw [value_properties_cons, value_properties_cons, hp.passed_eq hproperty]
    split
    · exact ih hkeys hrest
    · exact Report.complaint?_within_congr (hp _ _ hproperty) _

/-- Of an object no more is seen than what is seen of the listed properties. -/
theorem blind_object {options : ObjectOptions Inspector} (hR : Value.Likeness R keys)
    (hkeys : ∀ p ∈ options.properties, p.1 ∈ keys)
    (h : ∀ p ∈ options.properties, p.2.Blind R) : (object options).Blind R := by
  intro v w hvw
  have hlike := hR.resembles hvw
  simp only [object, hlike.datatype_eq, hlike.isNull_eq]
  split
  · split
    · rfl
    · exact complaint?_properties hR hkeys h hvw
  · rfl

/-- What is built anew for each check is blind if what is built is. -/
theorem blind_rebuilt {build : Build Inspector} (h : ∀ i, build.result = .ok i → i.Blind R) :
    (rebuilt build).Blind R := by
  intro v w hvw
  cases build with
  | mk value events =>
    cases value with
    | error e => rfl
    | ok i =>
      change (Report.ofBool (i.check v).value).complaint? =
        (Report.ofBool (i.check w).value).complaint?
      rw [value_check, value_check, (h i rfl).passed_eq hvw]

end Inspector

end Conform
