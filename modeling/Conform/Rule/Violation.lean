import Conform.ErrorKind
import Conform.Value.Text

/-! How a value can break a rule, and what is said about it. -/

namespace Conform

inductive Violation where
  /-- Not of the type that `expected` names. -/
  | wrongType (expected : String) (received : Datatype)
  | wrongLength (expected actual : Nat)
  | tooShort (min actual : Nat)
  | tooLong (max actual : Nat)
  | unmatched (pattern : Pattern) (received : String)
  | notInteger (received : Number)
  | tooSmall (min actual : Number)
  | tooLarge (max actual : Number)
  | isNull
  | notAChoice (choices : List Value) (received : Value)
  | notAnInstance (classes : List Class) (received : Value)
  | wrongDatatype (expected received : Datatype)

namespace Violation

/-- A number that is no integer counts as having the wrong type. -/
def kind : Violation → ErrorKind
  | wrongType _ _ | notInteger _ | notAnInstance _ _ | wrongDatatype _ _ => .typeError
  | _ => .error

def text : Violation → String
  | wrongType expected received =>
    "expected " ++ expected ++ " type, received " ++ received.name
  | wrongLength expected actual =>
    "expected length of " ++ Nat.repr expected ++ ", received " ++ Nat.repr actual
  | tooShort min actual =>
    "expected min length of " ++ Nat.repr min ++ ", received " ++ Nat.repr actual
  | tooLong max actual =>
    "expected max length of " ++ Nat.repr max ++ ", received " ++ Nat.repr actual
  | unmatched pattern received =>
    "expected pattern " ++ pattern.text ++ ", received " ++
      Text.quoted (Text.preview received Text.previewLimit)
  | notInteger received => "expected integer, received " ++ received.text
  | tooSmall min actual => "expected minimum of " ++ min.text ++ ", received " ++ actual.text
  | tooLarge max actual => "expected maximum of " ++ max.text ++ ", received " ++ actual.text
  | isNull => "expected not null"
  | notAChoice choices received =>
    "expected one of [" ++ ", ".intercalate (choices.map Value.describe) ++ "], received " ++
      received.describe
  | notAnInstance classes received =>
    "expected instance of " ++ " or ".intercalate (classes.map Class.name) ++ ", received " ++
      received.describe
  | wrongDatatype expected received =>
    "expected datatype " ++ expected.name ++ ", received " ++ received.name

end Violation

end Conform
