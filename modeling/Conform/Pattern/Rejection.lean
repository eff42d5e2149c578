import Conform.Pattern.Fault
import Conform.Pattern.Footprint

/-! Why a text is no pattern. -/

namespace Conform.Pattern

inductive Rejection where
  | malformed (error : Error)
  | oversized (limit : Nat)
deriving DecidableEq

def Rejection.text (source : String) : Rejection → String
  | malformed error => error.render source
  | oversized limit => "Compiled regex exceeds size limit of " ++ Nat.repr limit ++ " bytes."

end Conform.Pattern
