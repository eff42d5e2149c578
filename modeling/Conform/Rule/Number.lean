import Conform.ConfigError
import Conform.Rule.Violation

/-! Bounds on a number, and whether it has to be an integer. -/

namespace Conform

/-- The largest integer below which all integers are numbers, `2 ^ 53 - 1`. -/
def maxSafeInteger : Number := .ofInt 9007199254740991

def minSafeInteger : Number := .ofInt (-9007199254740991)

/-- Options whose bounds are numbers in the right order. -/
structure NumberRule where
  options : NumberOptions

namespace NumberRule

def unbounded : NumberRule := ⟨.none⟩

def safeIntegers : NumberRule := ⟨⟨some minSafeInteger, some maxSafeInteger, true⟩⟩

def same (r s : NumberRule) : Bool := r.options.same s.options

def ofOptions (options : NumberOptions) : Except ConfigError NumberRule :=
  if options.min.any (·.isNaN) || options.max.any (·.isNaN) then .error .boundIsNaN
  else
    match options.min, options.max with
    | some min, some max => if max.lt min then .error (.numberBounds min max) else .ok ⟨options⟩
    | _, _ => .ok ⟨options⟩

/-- The first of the rule's conditions that a number breaks. -/
def numberViolation? (r : NumberRule) (n : Number) : Option Violation :=
  (if r.options.integer && !n.isIntegral then some (.notInteger n) else none) <|>
    ((r.options.min.filter (n.lt ·)).map (.tooSmall · n)) <|>
    ((r.options.max.filter (·.lt n)).map (.tooLarge · n))

def violation? (r : NumberRule) : Value → Option Violation
  | .number n => r.numberViolation? n
  | v => some (.wrongType Datatype.number.name v.datatype)

end NumberRule

end Conform
