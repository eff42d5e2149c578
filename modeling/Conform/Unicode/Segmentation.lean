import Conform.Unicode.BinaryProperty
import Conform.Unicode.Scripts

/-! How characters take part in breaking a text into graphemes, words and sentences. -/

namespace Conform.Unicode

open GeneralCategory

def hangulSyllables : CharSet := .stretch 0xAC00 0xD7A4

/-- Hangul syllables without a final consonant; each is followed by those that add one to it. -/
def openSyllables : CharSet := .ofCodes ((List.range 399).map fun i => 0xAC00 + 28 * i)

def graphemeBreaks : List (List String × CharSet) :=
  [(["cn", "control"], Table.graphemeControl),
    (["cr"], .single '\r'),
    (["ex", "extend"], graphemeExtend.union Table.emojiModifier),
    (["l"], Table.leadingJamo),
    (["lf"], .single '\n'),
    (["lv"], openSyllables),
    (["lvt"], hangulSyllables.diff openSyllables),
    (["pp", "prepend"], Table.prependedConcatenationMark.union Table.prependedLetter),
    (["ri", "regionalindicator"], Table.regionalIndicator),
    (["sm", "spacingmark"],
      ((Table.spacingMark.diff graphemeExtend).diff Table.unspacingMark).union Table.spacingLetter),
    (["t"], Table.trailingJamo),
    (["v"], Table.vowelJamo),
    (["zwj"], .single '\u200d')]

def wordExtend : CharSet :=
  .unionOf [graphemeExtend, Table.spacingMark, Table.emojiModifier]

def wordKatakana : CharSet := (scriptOf "katakana").union Table.kanaSign

def hebrewLetters : CharSet := (scriptOf "hebrew").inter Table.otherLetter

def wordLetters : CharSet :=
  (alphabetic.diff
    (.unionOf [Table.ideographic, wordKatakana, scriptOf "hiragana", wordExtend, hebrewLetters,
      Table.unspacedLetter])).union
    Table.letterLike

def wordNumeric : CharSet := Table.decimalNumber.union Table.numericSign

def wordBreaks : List (List String × CharSet) :=
  [(["le", "aletter"], wordLetters),
    (["cr"], .single '\r'),
    (["dq", "doublequote"], .single '"'),
    (["ex", "extendnumlet"], Table.connectorPunctuation.union (.single '\u202f')),
    (["extend"], wordExtend),
    (["fo", "format"], Table.wordFormat),
    (["hl", "hebrewletter"], hebrewLetters),
    (["ka", "katakana"], wordKatakana),
    (["lf"], .single '\n'),
    (["mb", "midnumlet"], Table.midNumberOrLetter),
    (["ml", "midletter"], Table.midLetter),
    (["mn", "midnum"], Table.midNumber),
    (["nl", "newline"], Table.lineEnd),
    (["nu", "numeric"], wordNumeric),
    (["ri", "regionalindicator"], Table.regionalIndicator),
    (["sq", "singlequote"], .single '\''),
    (["wsegspace"], Table.wordSpace),
    (["zwj"], .single '\u200d')]

def separatorLines : CharSet := .ofCodes [0x85, 0x2028, 0x2029]

def sentenceExtend : CharSet :=
  .unionOf [graphemeExtend, Table.spacingMark, .single '\u200d']

def sentenceLower : CharSet := (lowercase.diff graphemeExtend).diff Table.georgianLetter

def sentenceUpper : CharSet := (uppercase.union Table.titlecaseLetter).diff Table.georgianLetter

def sentenceLetters : CharSet :=
  (alphabetic.diff (.unionOf [sentenceLower, sentenceUpper, sentenceExtend])).union
    (.single '\u05f3')

def sentenceBreaks : List (List String × CharSet) :=
  [(["at", "aterm"], Table.sentenceStop),
    (["cl", "close"], Table.sentenceClose),
    (["cr"], .single '\r'),
    (["ex", "extend"], sentenceExtend),
    (["fo", "format"], Table.sentenceFormat),
    (["le", "oletter"], sentenceLetters),
    (["lf"], .single '\n'),
    (["lo", "lower"], sentenceLower),
    (["nu", "numeric"], wordNumeric.union (.single '\u066c')),
    (["sc", "scontinue"], Table.sentenceContinue),
    (["se", "sep"], separatorLines),
    (["sp"], Table.whiteSpace.diff (separatorLines.union (.ofCodes [0xA, 0xD]))),
    (["st", "sterm"], Table.sentenceTerminal.diff Table.sentenceStop),
    (["up", "upper"], sentenceUpper)]

end Conform.Unicode
