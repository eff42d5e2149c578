import Conform.CharSet.Algebra
import Conform.Unicode.ScriptsFromN
import Conform.Unicode.ScriptsShared
import Conform.Unicode.ScriptsToM

/-! Scripts by name. -/

namespace Conform.Unicode

def properScripts : List Script := scriptsToM ++ scriptsFromN

def scripts : List Script := scriptsShared ++ properScripts

def scriptOf (name : String) : CharSet :=
  ((scripts.find? (·.names.contains name)).map Script.characters).getD .nothing

/-- Every character that a script uses though it does not belong to it. -/
def allBorrowed : CharSet := .unionOf (properScripts.map Script.borrowed)

/-- The characters that a script uses. What no script owns counts only as long as none uses it. -/
def Script.extension (script : Script) : CharSet :=
  if scriptsShared.any (·.names == script.names) then script.characters.diff allBorrowed
  else script.characters.union script.borrowed

end Conform.Unicode
