import Conform.CharSet.Algebra
import Conform.Unicode.Letters
import Conform.Unicode.Marks
import Conform.Unicode.Numerals
import Conform.Unicode.Punctuation
import Conform.Unicode.Symbols
import Conform.Unicode.Others

/-! General categories of characters, and the groups and names they go by. -/

namespace Conform.Unicode

inductive GeneralCategory where
  | uppercaseLetter | lowercaseLetter | titlecaseLetter | modifierLetter | otherLetter
  | nonspacingMark | spacingMark | enclosingMark
  | decimalNumber | letterNumber | otherNumber
  | connectorPunctuation | dashPunctuation | openPunctuation | closePunctuation
  | initialPunctuation | finalPunctuation | otherPunctuation
  | mathSymbol | currencySymbol | modifierSymbol | otherSymbol
  | spaceSeparator | lineSeparator | paragraphSeparator
  | control | format | surrogate | privateUse | unassigned
deriving DecidableEq

namespace Table

def assigned : CharSet :=
  .unionOf
    [uppercaseLetter, lowercaseLetter, titlecaseLetter, modifierLetter, otherLetter,
      nonspacingMark, spacingMark, enclosingMark, decimalNumber, letterNumber, otherNumber,
      connectorPunctuation, dashPunctuation, openPunctuation, closePunctuation, initialPunctuation,
      finalPunctuation, otherPunctuation, mathSymbol, currencySymbol, modifierSymbol, otherSymbol,
      spaceSeparator, lineSeparator, paragraphSeparator, control, format, surrogate, privateUse]

def unassigned : CharSet := assigned.complement

end Table

namespace GeneralCategory

def table : GeneralCategory → CharSet
  | uppercaseLetter => Table.uppercaseLetter
  | lowercaseLetter => Table.lowercaseLetter
  | titlecaseLetter => Table.titlecaseLetter
  | modifierLetter => Table.modifierLetter
  | otherLetter => Table.otherLetter
  | nonspacingMark => Table.nonspacingMark
  | spacingMark => Table.spacingMark
  | enclosingMark => Table.enclosingMark
  | decimalNumber => Table.decimalNumber
  | letterNumber => Table.letterNumber
  | otherNumber => Table.otherNumber
  | connectorPunctuation => Table.connectorPunctuation
  | dashPunctuation => Table.dashPunctuation
  | openPunctuation => Table.openPunctuation
  | closePunctuation => Table.closePunctuation
  | initialPunctuation => Table.initialPunctuation
  | finalPunctuation => Table.finalPunctuation
  | otherPunctuation => Table.otherPunctuation
  | mathSymbol => Table.mathSymbol
  | currencySymbol => Table.currencySymbol
  | modifierSymbol => Table.modifierSymbol
  | otherSymbol => Table.otherSymbol
  | spaceSeparator => Table.spaceSeparator
  | lineSeparator => Table.lineSeparator
  | paragraphSeparator => Table.paragraphSeparator
  | control => Table.control
  | format => Table.format
  | surrogate => Table.surrogate
  | privateUse => Table.privateUse
  | unassigned => Table.unassigned

def characters (categories : List GeneralCategory) : CharSet := .unionOf (categories.map table)

def casedLetters : List GeneralCategory := [uppercaseLetter, lowercaseLetter, titlecaseLetter]

def letters : List GeneralCategory := casedLetters ++ [modifierLetter, otherLetter]

def marks : List GeneralCategory := [nonspacingMark, spacingMark, enclosingMark]

def numbers : List GeneralCategory := [decimalNumber, letterNumber, otherNumber]

def punctuation : List GeneralCategory :=
  [connectorPunctuation, dashPunctuation, openPunctuation, closePunctuation, initialPunctuation,
    finalPunctuation, otherPunctuation]

def symbols : List GeneralCategory := [mathSymbol, currencySymbol, modifierSymbol, otherSymbol]

def separators : List GeneralCategory := [spaceSeparator, lineSeparator, paragraphSeparator]

def others : List GeneralCategory := [control, format, surrogate, privateUse, unassigned]

/-- Each group of categories with its short and long names, in lower case and without separators. -/
def names : List (List String × List GeneralCategory) :=
  [(["lu", "uppercaseletter"], [uppercaseLetter]),
    (["ll", "lowercaseletter"], [lowercaseLetter]),
    (["lt", "titlecaseletter"], [titlecaseLetter]),
    (["lc", "casedletter"], casedLetters),
    (["lm", "modifierletter"], [modifierLetter]),
    (["lo", "otherletter"], [otherLetter]),
    (["l", "letter"], letters),
    (["mn", "nonspacingmark"], [nonspacingMark]),
    (["mc", "spacingmark"], [spacingMark]),
    (["me", "enclosingmark"], [enclosingMark]),
    (["m", "mark", "combiningmark"], marks),
    (["nd", "decimalnumber", "digit"], [decimalNumber]),
    (["nl", "letternumber"], [letterNumber]),
    (["no", "othernumber"], [otherNumber]),
    (["n", "number"], numbers),
    (["pc", "connectorpunctuation"], [connectorPunctuation]),
    (["pd", "dashpunctuation"], [dashPunctuation]),
    (["ps", "openpunctuation"], [openPunctuation]),
    (["pe", "closepunctuation"], [closePunctuation]),
    (["pi", "initialpunctuation"], [initialPunctuation]),
    (["pf", "finalpunctuation"], [finalPunctuation]),
    (["po", "otherpunctuation"], [otherPunctuation]),
    (["p", "punctuation", "punct"], punctuation),
    (["sm", "mathsymbol"], [mathSymbol]),
    (["sc", "currencysymbol"], [currencySymbol]),
    (["sk", "modifiersymbol"], [modifierSymbol]),
    (["so", "othersymbol"], [otherSymbol]),
    (["s", "symbol"], symbols),
    (["zs", "spaceseparator"], [spaceSeparator]),
    (["zl", "lineseparator"], [lineSeparator]),
    (["zp", "paragraphseparator"], [paragraphSeparator]),
    (["z", "separator"], separators),
    (["cc", "control", "cntrl"], [control]),
    (["cf", "format"], [format]),
    (["co", "privateuse"], [privateUse]),
    (["cn", "unassigned"], [unassigned]),
    (["c", "other"], others)]

def named? (name : String) : Option (List GeneralCategory) :=
  (names.find? fun entry => entry.1.contains name).map (·.2)

end GeneralCategory

end Conform.Unicode
