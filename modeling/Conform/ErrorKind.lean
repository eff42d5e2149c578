/-! The kinds of failure that a check can raise. -/

namespace Conform

inductive ErrorKind where
  /-- The value has the wrong type. -/
  | typeError
  /-- The value has the right type and breaks a constraint. -/
  | error
  /-- The check is not written yet. -/
  | notImplemented
deriving DecidableEq

def ErrorKind.name : ErrorKind → String
  | typeError => "TypeError"
  | error => "Error"
  | notImplemented => "NotImplementedError"

end Conform
