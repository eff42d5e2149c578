import Conform.Prebuilt
import Conform.Proofs.SingleUse
import Conform.Proofs.Violations

/-! The forms in which a kind of value is asked for without options: the prebuilt assertion, the
assertion for single use, and the prebuilt validator. They agree, save that the validator of
integers passes those that are not safe. -/

namespace Conform

/-- An integer that other integers are rounded to, or next to one. -/
def Value.IsUnsafeInteger (v : Value) : Prop :=
  ∃ n k, v = .number n ∧ n.IsInteger k ∧ 9007199254740991 < k.natAbs

namespace Number

/-- The largest safe integer, with every bit of the significand set. -/
def safeMagnitude : Magnitude :=
  ⟨9007199254740991, 1074, by decide, by decide, .inr (by decide)⟩

theorem steps_safeMagnitude : safeMagnitude.steps = 9007199254740991 * Magnitude.unit :=
  Magnitude.shiftLeft_eq_mul _ _

theorem isInteger_maxSafeInteger : maxSafeInteger.IsInteger 9007199254740991 := by
  have hsafe : maxSafeInteger = finite false safeMagnitude := by decide +kernel
  rw [hsafe]
  exact isInteger_of_steps false steps_safeMagnitude

theorem isInteger_minSafeInteger : minSafeInteger.IsInteger (-9007199254740991) := by
  have hsafe : minSafeInteger = finite true safeMagnitude := by decide +kernel
  rw [hsafe]
  exact isInteger_of_steps true steps_safeMagnitude

end Number

namespace Prebuilt

/-- The kinds of value for which there are all three forms. -/
inductive Kind where
  | defined | boolean | number | integer | string | array | object | function
deriving DecidableEq

namespace Kind

def assertion : Kind → Assertion
  | defined => assertions.defined
  | boolean => assertions.boolean
  | number => assertions.number
  | integer => assertions.integer
  | string => assertions.string
  | array => assertions.array
  | object => assertions.object
  | function => assertions.function

/-- The assertion for single use, without bounds, pattern, element or entries. -/
def single (kind : Kind) (v : Value) : Recorded (Option Failure) :=
  match kind with
  | defined => Assert.defined v
  | boolean => Assert.boolean v
  | number => Assert.number v none none
  | integer => Assert.integer v none none
  | string => Assert.string v none none none
  | array => Assert.array v none none none
  | object => Assert.object v []
  | function => Assert.function v

def validator : Kind → Validator
  | defined => validators.defined
  | boolean => validators.boolean
  | number => validators.number
  | integer => validators.integer
  | string => validators.string
  | array => validators.array
  | object => validators.object
  | function => validators.function

def origin (kind : Kind) : String := kind.assertion.name

/-- What is wrong with a value that is not of the kind. -/
def violation? : Kind → Value → Option Violation
  | defined => Inspector.typeViolation? "defined" Value.isDefined
  | boolean => Inspector.typeViolation? "boolean" Value.isBoolean
  | number => NumberRule.unbounded.violation?
  | integer => NumberRule.safeIntegers.violation?
  | string => StringRule.any.violation?
  | array => Constraint.arrayViolation? .unbounded
  | object => Constraint.objectViolation? false
  | function => Inspector.typeViolation? "function" Value.isFunction

variable {kind : Kind} {v : Value}

/-- A prebuilt assertion raises what the check of its kind finds. -/
theorem value_assertion (kind : Kind) (v : Value) :
    (kind.assertion.check v).value =
      (Report.ofViolation? (kind.violation? v)).raised? kind.origin := by
  have hinspector {name : String} {i : Inspector} {x? : Option Violation}
      (h : (i.run v).value = .ofViolation? x?) :
      ((Assertion.ofInspector name i).check v).value = (Report.ofViolation? x?).raised? name := by
    rw [Assertion.value_ofInspector, h]
  cases kind with
  | array => exact hinspector (by cases v <;> rfl)
  | object =>
    refine hinspector ?_
    simp only [violation?, Constraint.objectViolation?, Inspector.object, ObjectOptions.none]
    by_cases hd : v.datatype = .object
    · cases hnull : v.isNull <;> simp [hd, Report.ofViolation?, Inspector.object.properties]
    · simp [hd, Report.ofViolation?]
  | _ => exact hinspector rfl

theorem value_configured_of_ok {α : Type} {origin : String} {build : Build α} {a : α}
    (h : build.result = .ok a) (find : α → Value → Option Violation) (v : Value) :
    (Assert.configured origin build fun a => Assert.violated? origin (find a v)).value =
      (Report.ofViolation? (find a v)).raised? origin := by
  rw [Assert.value_configured, h]
  cases hx : find a v <;> simp only [hx] <;> rfl

/-- The bounds on safe integers make a rule. -/
theorem compile_safeIntegers :
    (NumberRule.compile ⟨some minSafeInteger, some maxSafeInteger, true⟩).result =
      .ok .safeIntegers := by
  have hmin := Number.isInteger_minSafeInteger.isNaN_eq_false
  have hmax := Number.isInteger_maxSafeInteger.isNaN_eq_false
  have hlt : maxSafeInteger.lt minSafeInteger = false :=
    Bool.eq_false_iff.mpr fun h => absurd
      ((Number.isInteger_maxSafeInteger.lt_iff Number.isInteger_minSafeInteger).mp h) (by decide)
  simp [NumberRule.ofOptions, NumberRule.safeIntegers, hmin, hmax, hlt]

/-- An assertion for single use raises the same, save for the kind with a message of its own. -/
theorem value_single (h : kind ≠ .defined) (v : Value) :
    (kind.single v).value = (Report.ofViolation? (kind.violation? v)).raised? kind.origin := by
  cases kind with
  | defined => exact (h rfl).elim
  | boolean | function | array => cases v <;> rfl
  | number => exact value_configured_of_ok rfl NumberRule.violation? v
  | integer =>
    simp only [single, Assert.integer, Assert.ofNumberOptions, Option.getD_none]
    exact value_configured_of_ok compile_safeIntegers NumberRule.violation? v
  | string => exact value_configured_of_ok rfl StringRule.violation? v
  | object =>
    refine Eq.trans ?_ (value_assertion .object v)
    change (Assert.object v []).value = _
    cases hobject : v.isObject with
    | false =>
      exact (Assert.object_eq_of_not_isObject [] hobject .none rfl).trans
        (Assertion.value_ofInspector _ _ _).symm
    | true =>
      rw [Assert.object_of_isObject [] hobject]
      obtain ⟨hd, hnull⟩ := Value.isObject_iff.mp hobject
      rw [value_assertion]
      simp only [violation?, Constraint.objectViolation?, hd, hnull]
      rfl

theorem value_single_defined (v : Value) :
    (single .defined v).value =
      if v.isDefined then none
      else some ⟨.typeError, "expected to be defined", "assert.defined"⟩ := by
  simp only [single, Assert.defined]
  split <;> rfl

/-- An integer is unsafe just if it lies past one of the two bounds. -/
theorem isUnsafeInteger_iff {n : Number} :
    (Value.number n).IsUnsafeInteger ↔ n.isIntegral = true ∧
      (n.lt minSafeInteger = true ∨ maxSafeInteger.lt n = true) := by
  constructor
  · rintro ⟨m, k, hm, hk, hlarge⟩
    cases hm
    rw [hk.lt_iff Number.isInteger_minSafeInteger, Number.isInteger_maxSafeInteger.lt_iff hk]
    exact ⟨Number.isIntegral_iff.mpr ⟨k, hk⟩, by omega⟩
  · rintro ⟨hintegral, hlarge⟩
    obtain ⟨k, hk⟩ := Number.isIntegral_iff.mp hintegral
    rw [hk.lt_iff Number.isInteger_minSafeInteger,
      Number.isInteger_maxSafeInteger.lt_iff hk] at hlarge
    exact ⟨n, k, rfl, hk, by omega⟩

theorem exists_violation_of_isUnsafeInteger (h : v.IsUnsafeInteger) :
    ∃ x, NumberRule.safeIntegers.violation? v = some x ∧ x.kind = .error := by
  obtain ⟨n, k, rfl, -⟩ := id h
  obtain ⟨hintegral, hlarge⟩ := isUnsafeInteger_iff.mp h
  cases hmin : n.lt minSafeInteger with
  | true =>
    exact ⟨.tooSmall minSafeInteger n, by
      simp [NumberRule.violation?, NumberRule.numberViolation?, NumberRule.safeIntegers, hintegral,
        hmin], rfl⟩
  | false =>
    have hmax : maxSafeInteger.lt n = true := hlarge.resolve_left (by simp [hmin])
    exact ⟨.tooLarge maxSafeInteger n, by
      simp [NumberRule.violation?, NumberRule.numberViolation?, NumberRule.safeIntegers, hintegral,
        hmin, hmax], rfl⟩

theorem safeIntegers_violation?_eq_none_iff {n : Number} :
    NumberRule.safeIntegers.numberViolation? n = none ↔
      n.isIntegral = true ∧ ¬ (Value.number n).IsUnsafeInteger := by
  rw [isUnsafeInteger_iff]
  cases hintegral : n.isIntegral <;>
    simp [NumberRule.numberViolation?, NumberRule.safeIntegers, hintegral]

theorem validate_integer_iff :
    v.isInteger = true ↔ NumberRule.safeIntegers.violation? v = none ∨ v.IsUnsafeInteger := by
  cases v with
  | number n =>
    change n.isIntegral = true ↔ NumberRule.safeIntegers.numberViolation? n = none ∨ _
    rw [safeIntegers_violation?_eq_none_iff]
    constructor
    · intro hintegral
      by_cases hlarge : (Value.number n).IsUnsafeInteger
      · exact .inr hlarge
      · exact .inl ⟨hintegral, hlarge⟩
    · rintro (⟨hintegral, -⟩ | hlarge)
      · exact hintegral
      · exact (isUnsafeInteger_iff.mp hlarge).1
  | _ => simp [Value.isInteger, Value.number?, NumberRule.violation?, Value.IsUnsafeInteger]

/-- A prebuilt validator passes what the check of its kind finds nothing wrong with. That of
integers passes unsafe ones as well. -/
theorem validate_iff (kind : Kind) (v : Value) :
    (kind.validator.validate v).value = true ↔
      kind.violation? v = none ∨ kind = .integer ∧ v.IsUnsafeInteger := by
  by_cases hinteger : kind = .integer
  · subst hinteger
    rw [and_iff_right rfl]
    exact validate_integer_iff
  · rw [or_iff_left fun h => hinteger h.1]
    have htype (name : String) (isOf : Value → Bool) :
        isOf v = true ↔ Inspector.typeViolation? name isOf v = none := by
      simp [Inspector.typeViolation?]
    cases kind with
    | integer => exact (hinteger rfl).elim
    | defined => exact htype "defined" Value.isDefined
    | boolean => exact htype "boolean" Value.isBoolean
    | function => exact htype "function" Value.isFunction
    | number =>
      change v.isNumber = true ↔ NumberRule.unbounded.violation? v = none
      cases v <;> simp [Value.isNumber, Value.number?, NumberRule.violation?,
        NumberRule.numberViolation?, NumberRule.unbounded, NumberOptions.none]
    | string =>
      change v.isString = true ↔ StringRule.any.violation? v = none
      cases v <;> simp [Value.isString, Value.text?, StringRule.violation?,
        StringRule.stringViolation?, StringRule.any, LengthRule.unbounded, LengthRule.violation?]
    | array =>
      change v.isArray = true ↔ Constraint.arrayViolation? .unbounded v = none
      cases v <;> simp [Value.isArray, Value.items?, Constraint.arrayViolation?,
        LengthRule.unbounded, LengthRule.violation?]
    | object =>
      change v.isObject = true ↔ Constraint.objectViolation? false v = none
      rw [Value.isObject_iff, Constraint.objectViolation?]
      by_cases hd : v.datatype = .object <;> cases v.isNull <;> simp [hd]

/-- The forms come to the same failure of a value that is not defined, in other words. -/
theorem undefined_raised :
    (assertion .defined |>.check .undefined).value =
        some ⟨.typeError, "expected defined type, received undefined", "assert.defined"⟩ ∧
      (single .defined .undefined).value =
        some ⟨.typeError, "expected to be defined", "assert.defined"⟩ :=
  ⟨rfl, rfl⟩

theorem raised_of_isDefined (h : v.isDefined = true) :
    (assertion .defined |>.check v).value = none ∧ (single .defined v).value = none := by
  rw [value_assertion, value_single_defined, if_pos h]
  simp [violation?, Inspector.typeViolation?, h, Report.ofViolation?, Report.raised?]

/-- Both assertions raise the same of every value, save that they find other words for one that is
not defined. The validator passes what they pass, and besides integers that are not safe. -/
theorem forms_agree (kind : Kind) (v : Value) :
    ((kind.assertion.check v).value.map fun f => (f.kind, f.origin)) =
        ((kind.single v).value.map fun f => (f.kind, f.origin)) ∧
      ((kind.assertion.check v).value = (kind.single v).value ↔
        ¬ (kind = .defined ∧ v = .undefined)) ∧
      ((kind.validator.validate v).value = true ↔
        (kind.assertion.check v).value = none ∧ (kind.single v).value = none ∨
          kind = .integer ∧ v.IsUnsafeInteger) ∧
      (kind = .integer ∧ v.IsUnsafeInteger →
        ∃ f, (kind.assertion.check v).value = some f ∧ (kind.single v).value = some f ∧
          f.kind = .error) := by
  -- The kind with a message of its own is compared value by value; all others share one check.
  by_cases hdefined : kind = .defined
  · subst hdefined
    have hvalidator : ((validator .defined).validate v).value = v.isDefined := rfl
    rw [hvalidator]
    cases hv : v.isDefined with
    | true =>
      obtain ⟨hassertion, hsingle⟩ := raised_of_isDefined hv
      have hne : v ≠ .undefined := by
        rintro rfl
        cases hv
      simp [hassertion, hsingle, hne]
    | false =>
      have hundefined : v = .undefined := by cases v <;> simp_all [Value.isDefined]
      subst hundefined
      obtain ⟨hassertion, hsingle⟩ := undefined_raised
      simp [hassertion, hsingle]
  · have hassertion := value_assertion kind v
    have hsingle := value_single hdefined v
    have hraised {x? : Option Violation} :
        (Report.ofViolation? x?).raised? kind.origin = none ↔ x? = none := by
      cases x? <;> simp [Report.ofViolation?, Report.raised?, Report.ofViolation]
    refine ⟨by rw [hassertion, hsingle], ?_, ?_, ?_⟩
    · exact iff_of_true (hassertion.trans hsingle.symm) fun h => hdefined h.1
    · rw [hassertion, hsingle, and_self, hraised]
      exact validate_iff kind v
    · rintro ⟨rfl, hlarge⟩
      obtain ⟨x, hx, hkind⟩ := exists_violation_of_isUnsafeInteger hlarge
      have hviolation : violation? .integer v = some x := hx
      rw [hviolation] at hassertion hsingle
      exact ⟨_, hassertion, hsingle, hkind⟩

/-- The first integer that is not safe passes the validator only. -/
theorem forms_agree_pow_53 :
    (Value.number (.ofInt 9007199254740992)).IsUnsafeInteger ∧
      ((validator .integer).validate (.number (.ofInt 9007199254740992))).value = true ∧
      ∃ f, (assertion .integer |>.check (.number (.ofInt 9007199254740992))).value = some f ∧
        (single .integer (.number (.ofInt 9007199254740992))).value = some f ∧
        f.kind = .error := by
  have hnumber : Number.ofInt 9007199254740992 =
      .finite false ⟨1 <<< 52, 1075, by decide, by decide, .inr (by decide)⟩ := by decide +kernel
  have hinteger : (Number.ofInt 9007199254740992).IsInteger 9007199254740992 := by
    rw [hnumber]
    exact Number.isInteger_of_steps false (by decide +kernel)
  have hlarge : (Value.number (.ofInt 9007199254740992)).IsUnsafeInteger :=
    ⟨_, _, rfl, hinteger, by decide⟩
  obtain ⟨-, -, hvalidator, hraised⟩ :=
    forms_agree .integer (.number (.ofInt 9007199254740992))
  exact ⟨hlarge, hvalidator.mpr (.inr ⟨rfl, hlarge⟩), hraised ⟨rfl, hlarge⟩⟩

end Kind

end Prebuilt

end Conform
