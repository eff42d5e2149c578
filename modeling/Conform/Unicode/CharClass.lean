import Conform.Unicode.Casing
import Conform.Unicode.GeneralCategory
import Conform.Unicode.Latest
import Conform.Unicode.Properties

/-! Classes of characters put together from categories and properties. Patterns go by the tables
alone; names and shown texts also know the characters added latest. -/

namespace Conform.Unicode

open GeneralCategory

def alphabetic : CharSet := (characters (letterNumber :: letters)).union Table.otherAlphabetic

def lowercase : CharSet := Table.lowercaseLetter.union Table.otherLowercase

def uppercase : CharSet := Table.uppercaseLetter.union Table.otherUppercase

def numeric : CharSet := characters numbers

def graphemeExtend : CharSet :=
  (characters [nonspacingMark, enclosingMark]).union Table.otherGraphemeExtend

/-- What a word is made of: alphabetic characters, marks, decimal digits, connectors such as the
low line, and the two joiners. -/
def wordCharacters : CharSet :=
  .unionOf [alphabetic, characters (decimalNumber :: connectorPunctuation :: marks),
    Table.joinControl]

def hidden : CharSet := (characters (separators ++ others)).diff Table.added

def isWhiteSpace (c : Char) : Bool := Table.whiteSpace.contains c

def isAlphabetic (c : Char) : Bool := alphabetic.contains c || Table.addedAlphabetic.contains c

def isNumeric (c : Char) : Bool := numeric.contains c || Table.addedNumeric.contains c

/-- Marks drawn as part of the character before them. -/
def extendingMarks : CharSet := (graphemeExtend.inter (characters marks)).union Table.addedExtending

/-- Characters that show on their own when written: the plain space, and all that is neither a
separator nor a control, format, private or unassigned code point, nor a mark drawn with what stands
before it, nor a filler that is meant to be ignored. -/
def isPrintable (c : Char) : Bool :=
  c = ' ' || !(hidden.contains c || extendingMarks.contains c || Table.defaultIgnorable.contains c)

end Conform.Unicode
