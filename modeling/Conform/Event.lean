import Conform.ConfigError
import Conform.Rule.Violation

/-! What happens in a run and can be observed. -/

namespace Conform

/-- A failure that an assertion raises; `origin` names the assertion. -/
structure Failure where
  kind : ErrorKind
  message : String
  origin : String
deriving DecidableEq

def Failure.text (f : Failure) : String := f.kind.name ++ ": " ++ f.message

/-- What an observed check goes by. -/
inductive Probe where
  | named (name : String)
  | indexed (index : Nat)
deriving DecidableEq

inductive Event where
  /-- A checker could not be built. -/
  | rejected (error : ConfigError)
  /-- An inspection came to a failing report. -/
  | inspectionFailed (kind : ErrorKind)
  /-- A check broke down before it came to a verdict. -/
  | checkFailed (text : String)
  | raised (failure : Failure)
  /-- An observed check was given a value. -/
  | probed (probe : Probe) (value : Value)
  /-- The text of a message was put together. -/
  | formatted

end Conform
