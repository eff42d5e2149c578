import Conform.Inspector
import Conform.Proofs.Digits
import Conform.Proofs.NumberBounds
import Conform.Proofs.NumberReading
import Conform.Proofs.StringBounds

/-! What a violation says is so. It names something that was asked for, the value really breaks it,
and what is said to be expected never reads as what is said to be received. -/

namespace Conform

variable {v : Value} {x : Violation}

namespace Value

/-- The value is of the type with the name. Two of the names are names of no datatype. -/
def IsOf (name : String) (v : Value) : Prop :=
  v.datatype.name = name ∨ name = "array" ∧ v.isArray = true ∨ name = "defined" ∧ v.isDefined = true

/-- The length of a string, in units of UTF-16, or of an array. -/
def length? : Value → Option Nat
  | string s => some (Text.utf16 s).length
  | array _ items => some items.length
  | _ => none

end Value

namespace Datatype

/-- No two datatypes have one name. -/
theorem name_injective {d e : Datatype} (h : d.name = e.name) : d = e := by
  have hfound := congrArg ofName? h
  rwa [ofName?_name, ofName?_name, Option.some.injEq] at hfound

theorem name_of_ofName? {name : String} {d : Datatype} (h : ofName? name = some d) :
    d.name = name := by
  simpa using List.find?_some h

end Datatype

namespace Violation

/-- What the violation says of a length is so. -/
inductive IsTrueOfLength (n : Nat) : Violation → Prop where
  | wrongLength {a : Nat} : n ≠ a → IsTrueOfLength n (.wrongLength a n)
  | tooShort {a : Nat} : n < a → IsTrueOfLength n (.tooShort a n)
  | tooLong {b : Nat} : b < n → IsTrueOfLength n (.tooLong b n)

/-- What the violation says of a value is so. -/
inductive IsTrueOf : Value → Violation → Prop where
  | wrongType {v : Value} {name : String} : ¬ v.IsOf name → IsTrueOf v (.wrongType name v.datatype)
  | length {v : Value} {n : Nat} {x : Violation} : v.length? = some n → x.IsTrueOfLength n →
      IsTrueOf v x
  | unmatched {s : String} {p : Pattern} : p.isFoundIn s = false →
      IsTrueOf (.string s) (.unmatched p s)
  | notInteger {n : Number} : (¬ ∃ k, n.IsInteger k) → IsTrueOf (.number n) (.notInteger n)
  | tooSmall {n a : Number} : n.lt a = true → IsTrueOf (.number n) (.tooSmall a n)
  | tooLarge {n b : Number} : b.lt n = true → IsTrueOf (.number n) (.tooLarge b n)
  | isNull : IsTrueOf .null .isNull
  | notAChoice {v : Value} {choices : List Value} :
      (∀ c ∈ choices, c.strictEquals v = false) → IsTrueOf v (.notAChoice choices v)
  | notAnInstance {v : Value} {classes : List Class} :
      (∀ c ∈ classes, v.instanceOf c = false) → IsTrueOf v (.notAnInstance classes v)
  | wrongDatatype {v : Value} {d : Datatype} : v.datatype ≠ d →
      IsTrueOf v (.wrongDatatype d v.datatype)

/-- What is said to be expected and to be received, with the words before and between them. -/
structure Contrast where
  before : String
  expected : String
  between : String
  received : String

/-- The two things that the text of a violation holds against each other. -/
def contrast? : Violation → Option Contrast
  | wrongType expected received =>
    some ⟨"expected ", expected, " type, received ", received.name⟩
  | wrongLength expected actual =>
    some ⟨"expected length of ", Nat.repr expected, ", received ", Nat.repr actual⟩
  | tooShort min actual =>
    some ⟨"expected min length of ", Nat.repr min, ", received ", Nat.repr actual⟩
  | tooLong max actual =>
    some ⟨"expected max length of ", Nat.repr max, ", received ", Nat.repr actual⟩
  | tooSmall min actual => some ⟨"expected minimum of ", min.text, ", received ", actual.text⟩
  | tooLarge max actual => some ⟨"expected maximum of ", max.text, ", received ", actual.text⟩
  | wrongDatatype expected received =>
    some ⟨"expected datatype ", expected.name, ", received ", received.name⟩
  | _ => none

/-- The text does not say that what was received was expected. -/
def IsConsistent (x : Violation) : Prop :=
  ∀ c ∈ x.contrast?,
    x.text = c.before ++ c.expected ++ c.between ++ c.received ∧ c.expected ≠ c.received

theorem text_of_contrast? {c : Contrast} (h : x.contrast? = some c) :
    x.text = c.before ++ c.expected ++ c.between ++ c.received := by
  cases x with
  | unmatched | notInteger | isNull | notAChoice | notAnInstance => cases h
  | _ =>
    simp only [contrast?, Option.some.injEq] at h
    subst h
    rfl

/-- A violation is consistent if what it expects is not what it has received. -/
theorem isConsistent_of_contrast? {c : Contrast} (h : x.contrast? = some c)
    (hne : c.expected ≠ c.received) : x.IsConsistent := by
  intro c' hc'
  obtain rfl := Option.some.inj (h.symm.trans hc')
  exact ⟨text_of_contrast? h, hne⟩

theorem isConsistent_of_contrast?_eq_none (h : x.contrast? = none) : x.IsConsistent := by
  intro c hc
  rw [h] at hc
  cases hc

theorem IsTrueOfLength.isConsistent {n : Nat} (h : x.IsTrueOfLength n) : x.IsConsistent := by
  cases h with
  | wrongLength hne => exact isConsistent_of_contrast? rfl (repr_injective.ne hne.symm)
  | tooShort hlt => exact isConsistent_of_contrast? rfl (repr_injective.ne (Nat.ne_of_gt hlt))
  | tooLong hlt => exact isConsistent_of_contrast? rfl (repr_injective.ne (Nat.ne_of_lt hlt))

/-- What is true is consistent: a value never keeps the bound that it is said to break. -/
theorem IsTrueOf.isConsistent (h : x.IsTrueOf v) : x.IsConsistent := by
  cases h with
  | wrongType hv => exact isConsistent_of_contrast? rfl fun hname => hv (.inl hname.symm)
  | length _ hx => exact hx.isConsistent
  | tooSmall hlt => exact isConsistent_of_contrast? rfl (Number.text_ne_of_lt hlt).symm
  | tooLarge hlt => exact isConsistent_of_contrast? rfl (Number.text_ne_of_lt hlt)
  | wrongDatatype hne =>
    exact isConsistent_of_contrast? rfl fun hname => hne (Datatype.name_injective hname.symm)
  | unmatched | notInteger | isNull | notAChoice | notAnInstance =>
    exact isConsistent_of_contrast?_eq_none rfl

end Violation

/-- What can be asked of a value by itself: a rule that is compiled, or a type that is built in. -/
inductive Constraint where
  | string (options : StringOptions)
  | pattern (source : String)
  | number (options : NumberOptions)
  | oneOf (choices : List Value)
  | oneOfValue (choices : Value)
  | instanceOf (classes : List Class)
  | instanceOfValues (candidates : List Value)
  | datatype (name : String)
  | boolean
  | function
  | defined
  | array (minLength maxLength : Option Nat)
  | object (nullable : Bool)

namespace Constraint

/-- The length of an array, or else that a value is none. -/
def arrayViolation? (length : LengthRule) : Value → Option Violation
  | .array _ items => length.violation? items.length
  | v => some (.wrongType "array" v.datatype)

def objectViolation? (nullable : Bool) (v : Value) : Option Violation :=
  if v.datatype = .object then if v.isNull && !nullable then some .isNull else none
  else some (.wrongType Datatype.object.name v.datatype)

/-- The check that is made of a constraint. -/
def check : Constraint → Build (Value → Option Violation)
  | string options => return (← StringRule.compile options).violation?
  | pattern source => return (← StringRule.compilePattern source).violation?
  | number options => return (← NumberRule.compile options).violation?
  | oneOf choices => return (ChoiceRule.mk choices).violation?
  | oneOfValue choices => return (← ChoiceRule.compile choices).violation?
  | instanceOf classes => return (← InstanceRule.compile classes).violation?
  | instanceOfValues candidates => return (← InstanceRule.compileValues candidates).violation?
  | datatype name => return (← DatatypeRule.compile name).violation?
  | boolean => return Inspector.typeViolation? "boolean" Value.isBoolean
  | function => return Inspector.typeViolation? "function" Value.isFunction
  | defined => return Inspector.typeViolation? "defined" Value.isDefined
  | array minLength maxLength =>
    return arrayViolation? (← LengthRule.compile none minLength maxLength)
  | object nullable => return objectViolation? nullable

end Constraint

namespace Inspector

/-- What an inspector of arrays asks of the elements, once the length is admitted. -/
def askElements (element : Option Inspector) : Value → Recorded Report
  | .array _ items =>
    match element with
    | some element => element.elements 0 items
    | none => return .pass
  | _ => return .pass

/-- What an inspector of objects asks of the properties, which null has none of. -/
def askProperties (properties : List (String × Inspector)) (v : Value) : Recorded Report :=
  if v.isNull then return .pass else object.properties properties v

end Inspector

namespace Constraint

/-- The inspectors that ask for a constraint, and what they go on to ask of elements and properties
where it is met. -/
inductive IsAskedBy : Constraint → Inspector → (Value → Recorded Report) → Prop where
  | string {options : StringOptions} {i : Inspector} : (Inspector.string options).result = .ok i →
      IsAskedBy (.string options) i fun _ => return .pass
  | number {options : NumberOptions} {i : Inspector} : (Inspector.number options).result = .ok i →
      IsAskedBy (.number options) i fun _ => return .pass
  | oneOf {choices : List Value} :
      IsAskedBy (.oneOf choices) (.oneOf choices) fun _ => return .pass
  | oneOfValue {choices : Value} {i : Inspector} : (Inspector.oneOfValue choices).result = .ok i →
      IsAskedBy (.oneOfValue choices) i fun _ => return .pass
  | instanceOf {classes : List Class} {i : Inspector} :
      (Inspector.instanceOf classes).result = .ok i →
      IsAskedBy (.instanceOf classes) i fun _ => return .pass
  | instanceOfValues {candidates : List Value} {i : Inspector} :
      (Inspector.instanceOfValues candidates).result = .ok i →
      IsAskedBy (.instanceOfValues candidates) i fun _ => return .pass
  | datatype {name : String} {i : Inspector} : (Inspector.datatype name).result = .ok i →
      IsAskedBy (.datatype name) i fun _ => return .pass
  | boolean : IsAskedBy .boolean .boolean fun _ => return .pass
  | function : IsAskedBy .function .function fun _ => return .pass
  | defined : IsAskedBy .defined .defined fun _ => return .pass
  | array {options : ArrayOptions Inspector} {i : Inspector} :
      (Inspector.array options).result = .ok i →
      IsAskedBy (.array options.minLength options.maxLength) i
        (Inspector.askElements options.element)
  | arrayOf {element : Inspector} :
      IsAskedBy (.array none none) (.arrayOf element) (Inspector.askElements (some element))
  | anyArray : IsAskedBy (.array none none) .anyArray (Inspector.askElements none)
  | object {options : ObjectOptions Inspector} :
      IsAskedBy (.object options.optional) (.object options)
        (Inspector.askProperties options.properties)

end Constraint

/-- The bound is one of those given, or the exact length that two of them come to. -/
inductive LengthRule.Names (length min max : Option Nat) : Violation → Prop where
  | exactly {a n : Nat} : IsExact length min max a → Names length min max (.wrongLength a n)
  | min {a n : Nat} : a ∈ min → Names length min max (.tooShort a n)
  | max {b n : Nat} : b ∈ max → Names length min max (.tooLong b n)

namespace Constraint

/-- What is said to be broken is part of the constraint. -/
inductive Names : Constraint → Violation → Prop where
  | string {o : StringOptions} {d : Datatype} :
      Names (.string o) (.wrongType Datatype.string.name d)
  | length {o : StringOptions} {x : Violation} :
      LengthRule.Names o.length o.minLength o.maxLength x → Names (.string o) x
  | pattern {o : StringOptions} {source s : String} {p : Pattern} : source ∈ o.pattern →
      StringRule.readPattern source = .ok p → Names (.string o) (.unmatched p s)
  | onlyPattern {source : String} {x : Violation} :
      Names (.string ⟨some source, none, none, none⟩) x → Names (.pattern source) x
  | number {o : NumberOptions} {d : Datatype} :
      Names (.number o) (.wrongType Datatype.number.name d)
  | integer {o : NumberOptions} {n : Number} : o.integer = true → Names (.number o) (.notInteger n)
  | min {o : NumberOptions} {a n : Number} : a ∈ o.min → Names (.number o) (.tooSmall a n)
  | max {o : NumberOptions} {b n : Number} : b ∈ o.max → Names (.number o) (.tooLarge b n)
  | choices {choices : List Value} {v : Value} : Names (.oneOf choices) (.notAChoice choices v)
  | items {choices v : Value} {items : List Value} : items ∈ choices.items? →
      Names (.oneOfValue choices) (.notAChoice items v)
  | classes {classes : List Class} {v : Value} :
      Names (.instanceOf classes) (.notAnInstance classes v)
  | candidates {candidates : List Value} {classes : List Class} {v : Value} :
      candidates.map Value.class? = classes.map some →
      Names (.instanceOfValues candidates) (.notAnInstance classes v)
  | datatype {d received : Datatype} : Names (.datatype d.name) (.wrongDatatype d received)
  | boolean {d : Datatype} : Names .boolean (.wrongType "boolean" d)
  | function {d : Datatype} : Names .function (.wrongType "function" d)
  | defined {d : Datatype} : Names .defined (.wrongType "defined" d)
  | array {min max : Option Nat} {d : Datatype} : Names (.array min max) (.wrongType "array" d)
  | arrayLength {min max : Option Nat} {x : Violation} : LengthRule.Names none min max x →
      Names (.array min max) x
  | object {nullable : Bool} {d : Datatype} :
      Names (.object nullable) (.wrongType Datatype.object.name d)
  | null : Names (.object false) .isNull

variable {c : Constraint} {find : Value → Option Violation}

theorem not_isOf_datatype {d : Datatype} (h : v.datatype ≠ d) : ¬ v.IsOf d.name := by
  rintro (hname | ⟨hname, -⟩ | ⟨hname, -⟩)
  · exact h (Datatype.name_injective hname)
  · cases d <;> simp [Datatype.name] at hname
  · cases d <;> simp [Datatype.name] at hname

theorem names_and_true_of_length {length min max : Option Nat} {n : Nat}
    (h : LengthRule.Breaks length min max n x) :
    LengthRule.Names length min max x ∧ x.IsTrueOfLength n := by
  cases h with
  | exactly hexact hne => exact ⟨.exactly hexact, .wrongLength hne⟩
  | below _ ha hlt => exact ⟨.min ha, .tooShort hlt⟩
  | above _ _ hb hlt => exact ⟨.max hb, .tooLong hlt⟩

theorem names_and_true_of_string {o : StringOptions} (h : o.Breaks v x) :
    (string o).Names x ∧ x.IsTrueOf v := by
  cases h with
  | type hv =>
    refine ⟨.string, .wrongType (not_isOf_datatype fun hd => ?_)⟩
    cases v <;> simp [Value.datatype, Value.isString, Value.text?] at hd hv
  | length hbreaks =>
    obtain ⟨hnames, htrue⟩ := names_and_true_of_length hbreaks
    exact ⟨.length hnames, .length rfl htrue⟩
  | pattern _ hsource hread hfound => exact ⟨.pattern hsource hread, .unmatched hfound⟩

/-- What a rule for numbers finds wrong is one of its options, and the number breaks it. -/
theorem names_and_true_of_number {rule : NumberRule} (h : rule.violation? v = some x) :
    (number rule.options).Names x ∧ x.IsTrueOf v := by
  by_cases hv : v.isNumber = true
  · cases v with
    | number n =>
      by_cases hfraction : rule.options.integer = true ∧ n.isIntegral = false
      · obtain ⟨hinteger, hn⟩ := hfraction
        have hx := (NumberRule.numberViolation?_of_fraction hinteger hn).symm.trans h
        obtain rfl := Option.some.inj hx
        refine ⟨.integer hinteger, .notInteger ?_⟩
        rw [← Number.isIntegral_iff, hn]
        exact Bool.false_ne_true
      · have hintegral (hinteger : rule.options.integer = true) : n.isIntegral = true := by
          simpa using fun hn => hfraction ⟨hinteger, hn⟩
        rcases (NumberRule.numberViolation?_eq_some_iff hintegral).mp h with
          ⟨a, ha, hlt, rfl⟩ | ⟨-, b, hb, hlt, rfl⟩
        · exact ⟨.min ha, .tooSmall hlt⟩
        · exact ⟨.max hb, .tooLarge hlt⟩
    | _ => cases hv
  · rw [Bool.not_eq_true] at hv
    rw [NumberRule.violation?_of_isNumber_eq_false hv, Option.some.injEq] at h
    subst h
    refine ⟨.number, .wrongType (not_isOf_datatype fun hd => ?_)⟩
    cases v <;> simp [Value.datatype, Value.isNumber, Value.number?] at hd hv

theorem true_of_choice {choices : List Value} (h : (ChoiceRule.mk choices).violation? v = some x) :
    x = .notAChoice choices v ∧ x.IsTrueOf v := by
  unfold ChoiceRule.violation? at h
  split at h
  next => cases h
  next hnone =>
    obtain rfl := Option.some.inj h
    exact ⟨rfl, .notAChoice (by simpa using hnone)⟩

theorem names_and_true_of_items {choices : Value} {r : ChoiceRule}
    (hr : ChoiceRule.ofValue choices = .ok r) (h : r.violation? v = some x) :
    (oneOfValue choices).Names x ∧ x.IsTrueOf v := by
  unfold ChoiceRule.ofValue at hr
  split at hr
  next items hitems =>
    cases hr
    obtain ⟨rfl, htrue⟩ := true_of_choice h
    exact ⟨.items hitems, htrue⟩
  next => cases hr

theorem true_of_instance {r : InstanceRule} (h : r.violation? v = some x) :
    x = .notAnInstance r.classes v ∧ x.IsTrueOf v := by
  unfold InstanceRule.violation? at h
  split at h
  next => cases h
  next hnone =>
    obtain rfl := Option.some.inj h
    exact ⟨rfl, .notAnInstance (by simpa using hnone)⟩

theorem classes_of_ofClasses {classes : List Class} {r : InstanceRule}
    (h : InstanceRule.ofClasses classes = .ok r) : r.classes = classes := by
  unfold InstanceRule.ofClasses at h
  split at h
  · cases h
  · cases h
    rfl

theorem map_class?_of_mapM {candidates : List Value} {classes : List Class}
    (h : candidates.mapM Class.ofValue = .ok classes) :
    candidates.map Value.class? = classes.map some := by
  induction candidates generalizing classes with
  | nil =>
    cases h
    rfl
  | cons v rest ih =>
    rw [List.mapM_cons] at h
    obtain ⟨c, hc, h⟩ := bind_eq_ok_iff.mp h
    obtain ⟨after, hafter, h⟩ := bind_eq_ok_iff.mp h
    cases h
    have hclass : v.class? = some c := by
      unfold Class.ofValue at hc
      split at hc
      next d hd =>
        cases hc
        exact hd
      next => cases hc
    rw [List.map_cons, List.map_cons, hclass, ih hafter]

theorem names_and_true_of_datatype {name : String} {r : DatatypeRule}
    (hr : DatatypeRule.ofName name = .ok r) (h : r.violation? v = some x) :
    (datatype name).Names x ∧ x.IsTrueOf v := by
  unfold DatatypeRule.ofName at hr
  split at hr
  next d hd =>
    cases hr
    obtain rfl := Datatype.name_of_ofName? hd
    unfold DatatypeRule.violation? at h
    split at h
    next => cases h
    next hne =>
      obtain rfl := Option.some.inj h
      exact ⟨.datatype, .wrongDatatype hne⟩
  next => cases hr

theorem true_of_type {name : String} {isOf : Value → Bool}
    (h : Inspector.typeViolation? name isOf v = some x) (hname : isOf v = false → ¬ v.IsOf name) :
    x = .wrongType name v.datatype ∧ x.IsTrueOf v := by
  unfold Inspector.typeViolation? at h
  split at h
  next => cases h
  next hv =>
    obtain rfl := Option.some.inj h
    exact ⟨rfl, .wrongType (hname (by simpa using hv))⟩

theorem names_and_true_of_array {min max : Option Nat} {length : LengthRule}
    (hlength : LengthRule.ofBounds none min max = .ok length)
    (h : arrayViolation? length v = some x) : (array min max).Names x ∧ x.IsTrueOf v := by
  by_cases hv : v.isArray = true
  · cases v with
    | array id items =>
      obtain ⟨hnames, htrue⟩ :=
        names_and_true_of_length ((LengthRule.violation?_eq_some_iff hlength).mp h)
      exact ⟨.arrayLength hnames, .length rfl htrue⟩
    | _ => cases hv
  · have hx : x = .wrongType "array" v.datatype := by
      cases v with
      | array id items => exact (hv rfl).elim
      | _ => exact (Option.some.inj h).symm
    subst hx
    refine ⟨.array, .wrongType ?_⟩
    rintro (hname | ⟨-, harray⟩ | ⟨hname, -⟩)
    · cases hd : v.datatype <;> simp [hd, Datatype.name] at hname
    · exact hv harray
    · simp at hname

theorem names_and_true_of_object {nullable : Bool} (h : objectViolation? nullable v = some x) :
    (object nullable).Names x ∧ x.IsTrueOf v := by
  unfold objectViolation? at h
  split at h
  next =>
    split at h
    next hnull =>
      obtain rfl := Option.some.inj h
      simp only [Bool.and_eq_true, Bool.not_eq_true'] at hnull
      obtain ⟨hnull, rfl⟩ := hnull
      cases v <;> simp [Value.isNull] at hnull
      exact ⟨.null, .isNull⟩
    next => cases h
  next hd =>
    obtain rfl := Option.some.inj h
    exact ⟨.object, .wrongType (not_isOf_datatype hd)⟩

/-- A check that is made of a rule. -/
theorem exists_rule_of_check {α : Type} {build : Build α} {outcome : Except ConfigError α}
    {f : α → Value → Option Violation} (hbuild : build = .ofExcept outcome)
    (h : (do return f (← build) : Build _).result = .ok find) :
    ∃ r, outcome = .ok r ∧ f r = find := by
  subst hbuild
  obtain ⟨r, hr, hfind⟩ := Build.exists_of_result_bind h
  rw [Build.result_ofExcept] at hr
  exact ⟨r, hr, Except.ok.inj hfind⟩

/-- What the check of a constraint finds wrong is part of the constraint, and is so. -/
theorem names_and_true (h : c.check.result = .ok find) (hx : find v = some x) :
    c.Names x ∧ x.IsTrueOf v := by
  cases c with
  | string o =>
    obtain ⟨r, hr, rfl⟩ := exists_rule_of_check (StringRule.compile_eq o) h
    exact names_and_true_of_string ((StringRule.violation?_eq_some_iff hr).mp hx)
  | pattern source =>
    obtain ⟨r, hr, rfl⟩ := exists_rule_of_check (StringRule.compilePattern_eq source) h
    have hoptions := (StringRule.ofOptions_onlyPattern source).trans hr
    obtain ⟨hnames, htrue⟩ :=
      names_and_true_of_string ((StringRule.violation?_eq_some_iff hoptions).mp hx)
    exact ⟨.onlyPattern hnames, htrue⟩
  | number o =>
    obtain ⟨r, hr, rfl⟩ := exists_rule_of_check (NumberRule.compile_eq o) h
    obtain ⟨-, rfl⟩ := NumberRule.ofOptions_eq_ok_iff.mp hr
    exact names_and_true_of_number hx
  | oneOf choices =>
    obtain rfl := Except.ok.inj h
    obtain ⟨rfl, htrue⟩ := true_of_choice hx
    exact ⟨.choices, htrue⟩
  | oneOfValue choices =>
    obtain ⟨r, hr, rfl⟩ := exists_rule_of_check (ChoiceRule.compile_eq choices) h
    exact names_and_true_of_items hr hx
  | instanceOf classes =>
    obtain ⟨r, hr, rfl⟩ := exists_rule_of_check (InstanceRule.compile_eq classes) h
    obtain ⟨rfl, htrue⟩ := true_of_instance hx
    rw [classes_of_ofClasses hr] at htrue ⊢
    exact ⟨.classes, htrue⟩
  | instanceOfValues candidates =>
    obtain ⟨r, hr, rfl⟩ := exists_rule_of_check (InstanceRule.compileValues_eq candidates) h
    obtain ⟨classes, hclasses, hr⟩ := bind_eq_ok_iff.mp hr
    obtain ⟨rfl, htrue⟩ := true_of_instance hx
    rw [classes_of_ofClasses hr] at htrue ⊢
    exact ⟨.candidates (map_class?_of_mapM hclasses), htrue⟩
  | datatype name =>
    obtain ⟨r, hr, rfl⟩ := exists_rule_of_check (DatatypeRule.compile_eq name) h
    exact names_and_true_of_datatype hr hx
  | boolean =>
    obtain rfl := Except.ok.inj h
    obtain ⟨rfl, htrue⟩ := true_of_type hx fun hv =>
      not_isOf_datatype (d := .boolean) (by cases v <;> simp_all [Value.datatype, Value.isBoolean])
    exact ⟨.boolean, htrue⟩
  | function =>
    obtain rfl := Except.ok.inj h
    obtain ⟨rfl, htrue⟩ := true_of_type hx fun hv =>
      not_isOf_datatype (d := .function) (by
        cases v <;> simp_all [Value.datatype, Value.isFunction, Value.function?])
    exact ⟨.function, htrue⟩
  | defined =>
    obtain rfl := Except.ok.inj h
    obtain ⟨rfl, htrue⟩ := true_of_type hx fun hv => by
      cases v <;> simp_all [Value.isDefined, Value.IsOf, Value.datatype, Datatype.name]
    exact ⟨.defined, htrue⟩
  | array min max =>
    obtain ⟨length, hlength, rfl⟩ := exists_rule_of_check (LengthRule.compile_eq none min max) h
    exact names_and_true_of_array hlength hx
  | object nullable =>
    obtain rfl := Except.ok.inj h
    exact names_and_true_of_object hx

theorem run_ofRule (find : Value → Option Violation) (v : Value) :
    (Inspector.ofRule find).run v =
      (find v).elim (return .pass) fun x => return .ofViolation x := by
  change (return .ofViolation? (find v) : Recorded Report) = _
  cases find v <;> rfl

/-- The inspector is made of the rule that the check is made of. -/
theorem eq_ofRule {α : Type} {build : Build α} {f : α → Value → Option Violation} {i : Inspector}
    (h : (do return f (← build) : Build _).result = .ok find)
    (hi : (do return .ofRule (f (← build)) : Build Inspector).result = .ok i) :
    i = .ofRule find := by
  obtain ⟨r, hr, hfind⟩ := Build.exists_of_result_bind h
  obtain ⟨r', hr', hi⟩ := Build.exists_of_result_bind hi
  cases hr.symm.trans hr'
  cases hfind
  cases hi
  rfl

/-- An inspector of arrays reports what is wrong with the type or the length, and else looks at the
elements. -/
theorem run_arrayWith (length : LengthRule) (element : Option Inspector) (v : Value) :
    (Inspector.arrayWith length element).run v =
      (arrayViolation? length v).elim (Inspector.askElements element v) fun x =>
        return .ofViolation x := by
  cases v with
  | array id items =>
    simp only [Inspector.arrayWith, arrayViolation?, Inspector.askElements]
    cases length.violation? items.length with
    | some x => rfl
    | none => cases element <;> rfl
  | _ => rfl

/-- An inspector of objects reports what is wrong with the type, and else looks at the
properties. -/
theorem run_object (options : ObjectOptions Inspector) (v : Value) :
    (Inspector.object options).run v =
      (objectViolation? options.optional v).elim (Inspector.askProperties options.properties v)
        fun x => return .ofViolation x := by
  simp only [Inspector.object, objectViolation?, Inspector.askProperties]
  by_cases hd : v.datatype = .object
  · rw [if_pos hd, if_pos hd]
    cases v.isNull with
    | false => rfl
    | true => cases options.optional <;> rfl
  · rw [if_neg hd, if_neg hd]
    rfl

/-- An inspector reports what the check of its constraint finds, or else goes on. -/
theorem IsAskedBy.run_eq {i : Inspector} {rest : Value → Recorded Report}
    (hi : c.IsAskedBy i rest) (h : c.check.result = .ok find) (v : Value) :
    i.run v = (find v).elim (rest v) fun x => return .ofViolation x := by
  cases hi with
  | string hi | number hi | oneOfValue hi | instanceOf hi | instanceOfValues hi | datatype hi =>
    rw [eq_ofRule h hi]
    exact run_ofRule find v
  | oneOf | boolean | function | defined =>
    obtain rfl := Except.ok.inj h
    exact run_ofRule _ v
  | array hi =>
    obtain ⟨length, hlength, rfl⟩ := exists_rule_of_check (LengthRule.compile_eq ..) h
    obtain ⟨length', hlength', hi⟩ := Build.exists_of_result_bind hi
    rw [LengthRule.result_compile, hlength] at hlength'
    cases hlength'
    cases hi
    exact run_arrayWith length _ v
  | arrayOf | anyArray =>
    obtain rfl := Except.ok.inj h
    exact run_arrayWith .unbounded _ v
  | object =>
    obtain rfl := Except.ok.inj h
    exact run_object _ v

/-- Whatever a check finds wrong is so, and that is what an inspector that asks for it reports. If a
check finds nothing wrong, such an inspector goes on to elements and properties, and passes if it
has none to look at. -/
theorem violations_justified :
    (∀ (c : Constraint) find, c.check.result = .ok find → ∀ v x, find v = some x →
      c.Names x ∧ x.IsTrueOf v ∧ x.IsConsistent ∧
        ∀ i rest, c.IsAskedBy i rest → i.run v = return .ofViolation x) ∧
    (∀ (c : Constraint) find, c.check.result = .ok find → ∀ v, find v = none →
      ∀ i rest, c.IsAskedBy i rest → i.run v = rest v) ∧
    ∀ length min max rule, (LengthRule.compile length min max).result = .ok rule →
      ∀ n x, rule.violation? n = some x →
        LengthRule.Names length min max x ∧ x.IsTrueOfLength n ∧ x.IsConsistent := by
  refine ⟨fun c find h v x hx => ?_, fun c find h v hnone i rest hi => ?_,
    fun length min max rule h n x hx => ?_⟩
  · obtain ⟨hnames, htrue⟩ := names_and_true h hx
    refine ⟨hnames, htrue, htrue.isConsistent, fun i rest hi => ?_⟩
    rw [hi.run_eq h, hx]
    rfl
  · rw [hi.run_eq h, hnone]
    rfl
  · rw [LengthRule.result_compile] at h
    obtain ⟨hnames, htrue⟩ :=
      names_and_true_of_length ((LengthRule.violation?_eq_some_iff h).mp hx)
    exact ⟨hnames, htrue, htrue.isConsistent⟩

/-- Two bounds of two on an array of one element and on one of two, and a lower bound of three on a
length of two. -/
theorem violations_justified_pair :
    (array (some 2) (some 2)).check.result = .ok (arrayViolation? (.exactly 2)) ∧
      ((array (some 2) (some 2)).Names (.wrongLength 2 1) ∧
        (Violation.wrongLength 2 1).IsTrueOf (.array 0 [.null]) ∧
        (Violation.wrongLength 2 1).IsConsistent ∧
        ∀ i rest, (array (some 2) (some 2)).IsAskedBy i rest →
          i.run (.array 0 [.null]) = return .ofViolation (.wrongLength 2 1)) ∧
      (∀ i rest, (array (some 2) (some 2)).IsAskedBy i rest →
        i.run (.array 0 [.null, .null]) = rest (.array 0 [.null, .null])) ∧
      (LengthRule.compile none (some 3) none).result = .ok (.between (some 3) none) ∧
      LengthRule.Names none (some 3) none (.tooShort 3 2) ∧
      (Violation.tooShort 3 2).IsTrueOfLength 2 ∧ (Violation.tooShort 3 2).IsConsistent :=
  ⟨rfl, violations_justified.1 _ _ rfl (.array 0 [.null]) _ rfl,
    violations_justified.2.1 _ _ rfl (.array 0 [.null, .null]) rfl, rfl,
    violations_justified.2.2 none (some 3) none _ rfl 2 _ rfl⟩

end Constraint

end Conform
