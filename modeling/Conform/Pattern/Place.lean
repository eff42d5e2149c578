import Conform.CharSet.Ascii
import Conform.Unicode.CharClass

/-! Tests of the place between two characters. -/

namespace Conform.Pattern

inductive Place where
  | textStart | textEnd
  | lineStart | lineEnd
  | crlfLineStart | crlfLineEnd
  | wordBoundary (ascii : Bool) | insideWord (ascii : Bool)
  | wordStart (ascii : Bool) | wordEnd (ascii : Bool)
  | beforeWord (ascii : Bool) | afterWord (ascii : Bool)
deriving DecidableEq

namespace Place

def isWordChar (ascii : Bool) (c : Char) : Bool :=
  if ascii then CharSet.asciiWord.contains c else Unicode.wordCharacters.contains c

/-- Whether the test holds between the character before and the character after. -/
def holds (before after : Option Char) : Place → Bool
  | textStart => before.isNone
  | textEnd => after.isNone
  | lineStart => before.all (· == '\n')
  | lineEnd => after.all (· == '\n')
  | crlfLineStart => before.all fun c => c == '\n' || (c == '\r' && after != some '\n')
  | crlfLineEnd => after.all fun c => c == '\r' || (c == '\n' && before != some '\r')
  | wordBoundary ascii => before.any (isWordChar ascii) != after.any (isWordChar ascii)
  | insideWord ascii => before.any (isWordChar ascii) == after.any (isWordChar ascii)
  | wordStart ascii => !before.any (isWordChar ascii) && after.any (isWordChar ascii)
  | wordEnd ascii => before.any (isWordChar ascii) && !after.any (isWordChar ascii)
  | beforeWord ascii => !before.any (isWordChar ascii)
  | afterWord ascii => !after.any (isWordChar ascii)

end Place

end Conform.Pattern
