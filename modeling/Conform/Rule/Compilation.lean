import Conform.Recorded
import Conform.Rule.Membership
import Conform.Rule.Number
import Conform.Rule.String

/-! Rules as checkers are built from them. Each error is recorded where it is found; what a
compilation comes to in the end is the outcome for the same options, with one record of an error. -/

namespace Conform

open Build (reject)

namespace LengthRule

def compile (length min max : Option Nat) : Build LengthRule :=
  match min, max with
  | some a, some b => if b < a then reject (.lengthBounds a b) else withLength length min max
  | _, _ => withLength length min max
where
  withLength (length min max : Option Nat) : Build LengthRule :=
    match length with
    | none => return ofBetween min max
    | some n =>
      match min.filter (n < ·), max.filter (· < n) with
      | some a, _ => reject (.lengthBelowMin n a)
      | none, some b => reject (.lengthAboveMax n b)
      | none, none => return exactly n

theorem withLength_eq (length min max : Option Nat) :
    compile.withLength length min max = .ofExcept (ofBounds.withLength length min max) := by
  cases length with
  | none => rfl
  | some n =>
    simp only [compile.withLength, ofBounds.withLength]
    cases min.filter (n < ·) with
    | some a => rfl
    | none => cases max.filter (· < n) <;> rfl

theorem compile_eq (length min max : Option Nat) :
    compile length min max = .ofExcept (ofBounds length min max) := by
  cases min with
  | none => exact withLength_eq _ _ _
  | some a =>
    cases max with
    | none => exact withLength_eq _ _ _
    | some b =>
      simp only [compile, ofBounds]
      by_cases h : b < a
      · rw [if_pos h, if_pos h]
        rfl
      · rw [if_neg h, if_neg h]
        exact withLength_eq _ _ _

@[simp] theorem result_compile (length min max : Option Nat) :
    (compile length min max).result = ofBounds length min max := by
  rw [compile_eq, Build.result_ofExcept]

end LengthRule

namespace NumberRule

def compile (options : NumberOptions) : Build NumberRule :=
  if options.min.any (·.isNaN) || options.max.any (·.isNaN) then reject .boundIsNaN
  else
    match options.min, options.max with
    | some min, some max =>
      if max.lt min then reject (.numberBounds min max) else return ⟨options⟩
    | _, _ => return ⟨options⟩

theorem compile_eq (options : NumberOptions) : compile options = .ofExcept (ofOptions options) := by
  unfold compile ofOptions
  by_cases hnan : options.min.any (·.isNaN) || options.max.any (·.isNaN)
  · rw [if_pos hnan, if_pos hnan]
    rfl
  · rw [if_neg hnan, if_neg hnan]
    cases options.min with
    | none => rfl
    | some a =>
      cases options.max with
      | none => rfl
      | some b =>
        dsimp only
        by_cases h : b.lt a
        · rw [if_pos h, if_pos h]
          rfl
        · rw [if_neg h, if_neg h]
          rfl

@[simp] theorem result_compile (options : NumberOptions) :
    (compile options).result = ofOptions options := by
  rw [compile_eq, Build.result_ofExcept]

end NumberRule

namespace StringRule

def compilePattern (source : String) : Build StringRule :=
  return ofPattern (← .ofExcept (readPattern source))

/-- The pattern is rejected here, the bounds where the rule on lengths is compiled. -/
def compile (options : StringOptions) : Build StringRule := do
  let pattern ← options.pattern.mapM fun source => .ofExcept (readPattern source)
  let length ← LengthRule.compile options.length options.minLength options.maxLength
  return ⟨length, pattern⟩

theorem compilePattern_eq (source : String) :
    compilePattern source = .ofExcept ((readPattern source).map ofPattern) := by
  unfold compilePattern
  cases readPattern source <;> rfl

theorem compile_eq (options : StringOptions) : compile options = .ofExcept (ofOptions options) := by
  have hpattern : (options.pattern.mapM fun source => Build.ofExcept (readPattern source)) =
      .ofExcept (options.pattern.mapM readPattern) := by
    cases options.pattern with
    | none => rfl
    | some source =>
      rw [Option.mapM_some, Option.mapM_some]
      cases readPattern source <;> rfl
  rw [compile, hpattern, LengthRule.compile_eq, ofOptions, ← Build.ofExcept_bind]
  congr 1
  funext pattern
  exact Build.ofExcept_bind _ fun length => .ok (StringRule.mk length pattern)

@[simp] theorem result_compile (options : StringOptions) :
    (compile options).result = ofOptions options := by
  rw [compile_eq, Build.result_ofExcept]

end StringRule

namespace ChoiceRule

def compile (choices : Value) : Build ChoiceRule :=
  match choices.items? with
  | some items => return ⟨items⟩
  | none => reject (.invalidChoices choices.datatype)

theorem compile_eq (choices : Value) : compile choices = .ofExcept (ofValue choices) := by
  unfold compile ofValue
  cases choices.items? <;> rfl

end ChoiceRule

namespace InstanceRule

def compile (classes : List Class) : Build InstanceRule :=
  if h : classes = [] then reject .emptyClasses else return ⟨classes, h⟩

/-- A candidate that constructs no class is rejected here, a list without any where the rule on
classes is compiled. -/
def compileValues (candidates : List Value) : Build InstanceRule := do
  compile (← .ofExcept (candidates.mapM Class.ofValue))

theorem compile_eq (classes : List Class) : compile classes = .ofExcept (ofClasses classes) := by
  by_cases h : classes = []
  · rw [compile, ofClasses, dif_pos h, dif_pos h]
    rfl
  · rw [compile, ofClasses, dif_neg h, dif_neg h]
    rfl

theorem compileValues_eq (candidates : List Value) :
    compileValues candidates = .ofExcept (ofValues candidates) := by
  simp only [compileValues, compile_eq]
  exact Build.ofExcept_bind _ ofClasses

end InstanceRule

namespace DatatypeRule

def compile (name : String) : Build DatatypeRule :=
  match Datatype.ofName? name with
  | some d => return ⟨d⟩
  | none => reject (.unknownDatatype name)

theorem compile_eq (name : String) : compile name = .ofExcept (ofName name) := by
  unfold compile ofName
  cases Datatype.ofName? name <;> rfl

end DatatypeRule

end Conform
