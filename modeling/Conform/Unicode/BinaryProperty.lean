import Conform.Unicode.Boundaries
import Conform.Unicode.CharClass
import Conform.Unicode.Emoji
import Conform.Unicode.Identifiers
import Conform.Unicode.Ideographs

/-! Properties that a character has or has not, and their names. -/

namespace Conform.Unicode

open GeneralCategory

def cased : CharSet := .unionOf [lowercase, uppercase, Table.titlecaseLetter]

def caseIgnorable : CharSet :=
  .unionOf [characters [nonspacingMark, enclosingMark, format, modifierLetter, modifierSymbol],
    Table.midLetter, Table.midNumberOrLetter, .single '\'']

def changedByLowercasing : CharSet :=
  (uppercase.union Table.titlecaseLetter).diff Table.keptByLowercasing

def changedByUppercasing : CharSet :=
  (lowercase.union Table.titlecaseLetter).diff Table.keptByUppercasing

def changedByTitlecasing : CharSet :=
  (changedByUppercasing.union Table.onlyTitlecased).diff Table.keptByTitlecasing

def changedByFolding : CharSet :=
  (changedByLowercasing.union Table.onlyFolded).diff Table.keptByFolding

def changedByCaseMapping : CharSet :=
  .unionOf [changedByLowercasing, changedByUppercasing, changedByTitlecasing]

/-- Characters that are drawn by themselves. -/
def graphemeBase : CharSet :=
  (CharSet.union (characters ([lineSeparator, paragraphSeparator] ++ others))
    graphemeExtend).complement

def idStart : CharSet :=
  ((characters (letterNumber :: letters)).union Table.otherIdStart).diff
    (Table.patternSyntax.union Table.patternWhiteSpace)

def idContinue : CharSet :=
  (CharSet.unionOf
    [idStart, Table.otherIdContinue,
      characters [nonspacingMark, spacingMark, decimalNumber, connectorPunctuation]]).diff
    Table.patternSyntax

def math : CharSet := Table.mathSymbol.union Table.otherMath

/-- Each binary property by its names, in lower case and without separators. -/
def binaryProperties : List (List String × CharSet) :=
  [(["ahex", "asciihexdigit"], Table.asciiHexDigit),
    (["alpha", "alphabetic"], alphabetic),
    (["bidic", "bidicontrol"], Table.bidiControl),
    (["bidim", "bidimirrored"], Table.bidiMirrored),
    (["cased"], cased),
    (["ci", "caseignorable"], caseIgnorable),
    (["cwcf", "changeswhencasefolded"], changedByFolding),
    (["cwcm", "changeswhencasemapped"], changedByCaseMapping),
    (["cwl", "changeswhenlowercased"], changedByLowercasing),
    (["cwt", "changeswhentitlecased"], changedByTitlecasing),
    (["cwu", "changeswhenuppercased"], changedByUppercasing),
    (["dash"], Table.dash),
    (["dep", "deprecated"], Table.deprecated),
    (["di", "defaultignorablecodepoint"], Table.defaultIgnorable),
    (["dia", "diacritic"], Table.diacritic),
    (["ebase", "emojimodifierbase"], Table.emojiModifierBase),
    (["ecomp", "emojicomponent"], Table.emojiComponent),
    (["emod", "emojimodifier"], Table.emojiModifier),
    (["emoji"], Table.emoji),
    (["epres", "emojipresentation"], Table.emojiPresentation),
    (["ext", "extender"], Table.extender),
    (["extpict", "extendedpictographic"], Table.extendedPictographic),
    (["grbase", "graphemebase"], graphemeBase),
    (["grext", "graphemeextend"], graphemeExtend),
    (["grlink", "graphemelink"], Table.graphemeLink),
    (["hex", "hexdigit"], Table.hexDigit),
    (["hyphen"], Table.hyphen),
    (["idc", "idcontinue"], idContinue),
    (["idcompatmathcontinue"], Table.idCompatMathContinue),
    (["idcompatmathstart"], Table.idCompatMathStart),
    (["ideo", "ideographic"], Table.ideographic),
    (["ids", "idstart"], idStart),
    (["idsb", "idsbinaryoperator"], Table.idsBinaryOperator),
    (["idst", "idstrinaryoperator"], Table.idsTrinaryOperator),
    (["idsu", "idsunaryoperator"], Table.idsUnaryOperator),
    (["joinc", "joincontrol"], Table.joinControl),
    (["loe", "logicalorderexception"], Table.logicalOrderException),
    (["lower", "lowercase"], lowercase),
    (["math"], math),
    (["mcm", "modifiercombiningmark"], Table.modifierCombiningMark),
    (["nchar", "noncharactercodepoint"], Table.noncharacter),
    (["oalpha", "otheralphabetic"], Table.otherAlphabetic),
    (["odi", "otherdefaultignorablecodepoint"], Table.otherDefaultIgnorable),
    (["ogrext", "othergraphemeextend"], Table.otherGraphemeExtend),
    (["oidc", "otheridcontinue"], Table.otherIdContinue),
    (["oids", "otheridstart"], Table.otherIdStart),
    (["olower", "otherlowercase"], Table.otherLowercase),
    (["omath", "othermath"], Table.otherMath),
    (["oupper", "otheruppercase"], Table.otherUppercase),
    (["patsyn", "patternsyntax"], Table.patternSyntax),
    (["patws", "patternwhitespace"], Table.patternWhiteSpace),
    (["pcm", "prependedconcatenationmark"], Table.prependedConcatenationMark),
    (["qmark", "quotationmark"], Table.quotationMark),
    (["radical"], Table.radical),
    (["ri", "regionalindicator"], Table.regionalIndicator),
    (["sd", "softdotted"], Table.softDotted),
    (["space", "wspace", "whitespace"], Table.whiteSpace),
    (["sterm", "sentenceterminal"], Table.sentenceTerminal),
    (["term", "terminalpunctuation"], Table.terminalPunctuation),
    (["uideo", "unifiedideograph"], Table.unifiedIdeograph),
    (["upper", "uppercase"], uppercase),
    (["vs", "variationselector"], Table.variationSelector),
    (["xidc", "xidcontinue"], idContinue.diff Table.unstableIdContinue),
    (["xids", "xidstart"], idStart.diff Table.unstableIdStart)]

end Conform.Unicode
