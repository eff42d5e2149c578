import Conform.CharSet.Basic

/-! Scripts as the standard lists them. -/

namespace Conform.Unicode

/-- A script: its long and short names, in lower case and without separators, the characters that
belong to it, and the characters that it uses though they do not. -/
structure Script where
  names : List String
  characters : CharSet
  borrowed : CharSet

end Conform.Unicode
