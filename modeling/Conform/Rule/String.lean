import Conform.Rule.Length
import Conform.Text.Units

/-! Bounds on the length of a string in 16-bit units, and a pattern that has to occur in it. -/

namespace Conform

structure StringRule where
  length : LengthRule
  pattern : Option Pattern

namespace StringRule

def any : StringRule := ⟨.unbounded, none⟩

def ofPattern (pattern : Pattern) : StringRule := ⟨.unbounded, some pattern⟩

def readPattern (source : String) : Except ConfigError Pattern :=
  (Pattern.ofSource source).mapError (.invalidPattern source)

/-- A faulty pattern is reported before faulty lengths. -/
def ofOptions (options : StringOptions) : Except ConfigError StringRule := do
  let pattern ← options.pattern.mapM readPattern
  let length ← LengthRule.ofBounds options.length options.minLength options.maxLength
  return ⟨length, pattern⟩

/-- The first of the rule's conditions that a string breaks, its length before its pattern. -/
def stringViolation? (r : StringRule) (s : String) : Option Violation :=
  r.length.violation? (Text.units16 s) <|>
    ((r.pattern.filter (!·.isFoundIn s)).map (.unmatched · s))

def violation? (r : StringRule) : Value → Option Violation
  | .string s => r.stringViolation? s
  | v => some (.wrongType Datatype.string.name v.datatype)

end StringRule

end Conform
