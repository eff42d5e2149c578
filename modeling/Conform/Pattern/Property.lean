import Conform.CharSet.Ascii
import Conform.Pattern.Fault
import Conform.Unicode.Editions
import Conform.Unicode.Segmentation

/-! The characters that patterns describe by properties. -/

namespace Conform.Pattern

open Unicode

/-- A property as a pattern puts it: by one name, or by a name and a value that the property has or,
if it is denied, has not. -/
inductive PropertyQuery where
  | named (name : List Char)
  | valued (name value : List Char) (denied : Bool)
deriving DecidableEq

namespace PropertyQuery

/-- What stands before a mark and after it, at the first place where the mark is found. -/
def splitAt? (mark : List Char) : List Char → Option (List Char × List Char)
  | [] => none
  | c :: rest =>
    if mark.isPrefixOf (c :: rest) then some ([], (c :: rest).drop mark.length)
    else (splitAt? mark rest).map fun (before, after) => (c :: before, after)

def ofText (text : List Char) : PropertyQuery :=
  match splitAt? ['!', '='] text with
  | some (name, value) => .valued name value true
  | none =>
    match splitAt? [':'] text <|> splitAt? ['='] text with
    | some (name, value) => .valued name value false
    | none => .named text

def isDenied : PropertyQuery → Bool
  | named _ => false
  | valued _ _ denied => denied

def plainLetters (name : List Char) : List Char :=
  (name.filter fun c => c.toNat < 0x80 && c != ' ' && c != '-' && c != '_').map Char.toLower

/-- Names are compared without case, blanks, `-` and `_` and without what is not plain, and `is` in
front of a name is passed over. -/
def plainName (name : List Char) : String :=
  if (name.take 2).map Char.toLower = ['i', 's'] then
    let rest := plainLetters (name.drop 2)
    if rest = ['c'] then "isc" else String.ofList rest
  else String.ofList (plainLetters name)

def named? {α : Type} (name : String) (table : List (List String × α)) : Option α :=
  (table.find? (·.1.contains name)).map (·.2)

def category? (name : String) : Option CharSet :=
  ((GeneralCategory.named? name).map GeneralCategory.characters) <|>
    [("any", CharSet.everything), ("ascii", .ascii), ("assigned", Table.assigned)].lookup name

def script? (name : String) : Option Script := scripts.find? (·.names.contains name)

/-- The characters of an edition: those that it added and those of all editions before it. -/
def edition? (name : String) : Option CharSet :=
  go .nothing editions
where
  go (earlier : CharSet) : List Edition → Option CharSet
    | [] => none
    | edition :: rest =>
      let characters := earlier.union edition.added
      if edition.names.contains name then some characters else go characters rest

/-- Names of categories and scripts that no character is in. -/
def emptyNames : List String :=
  ["cs", "surrogate", "hrkt", "katakanaorhiragana", "unknown", "zzzz"]

/-- The properties that take a value, with the values that can be asked for. -/
def valuedProperties : List (List String × (String → Option CharSet)) :=
  [(["gc", "generalcategory"], category?),
    (["sc", "script"], fun value => (script? value).map Script.characters),
    (["scx", "scriptextensions"], fun value => (script? value).map Script.extension),
    (["age"], edition?),
    (["gcb", "graphemeclusterbreak"], fun value => named? value graphemeBreaks),
    (["sb", "sentencebreak"], fun value => named? value sentenceBreaks),
    (["wb", "wordbreak"], fun value => named? value wordBreaks)]

/-- Names of properties that the standard knows and no pattern can ask for. -/
def otherProperties : List String :=
  ["bc", "bidiclass", "bidimirroringglyph", "bidipairedbracket", "bidipairedbrackettype", "blk",
    "block", "bmg", "bpb", "bpt", "canonicalcombiningclass", "casefolding", "ccc", "ce", "cf",
    "changeswhennfkccasefolded", "cjkaccountingnumeric", "cjkcompatibilityvariant", "cjkiicore",
    "cjkirggsource", "cjkirghsource", "cjkirgjsource", "cjkirgkpsource", "cjkirgksource",
    "cjkirgmsource", "cjkirgssource", "cjkirgtsource", "cjkirguksource", "cjkirgusource",
    "cjkirgvsource", "cjkothernumeric", "cjkprimarynumeric", "cjkrsunicode", "compex",
    "compositionexclusion", "cwkcf", "decompositionmapping", "decompositiontype", "dm", "dt", "ea",
    "eastasianwidth", "equideo", "equivalentunifiedideograph", "expandsonnfc", "expandsonnfd",
    "expandsonnfkc", "expandsonnfkd", "fcnfkc", "fcnfkcclosure", "fullcompositionexclusion",
    "hangulsyllabletype", "hst", "incb", "indicconjunctbreak", "indicpositionalcategory",
    "indicsyllabiccategory", "inpc", "insc", "isc", "jamoshortname", "jg", "joininggroup",
    "joiningtype", "jsn", "jt", "kaccountingnumeric", "kcompatibilityvariant", "kehcat", "kehdesc",
    "kehhg", "kehifao", "kehjsesh", "kehnomirror", "kehnorotate", "kiicore", "kirggsource",
    "kirghsource", "kirgjsource", "kirgkpsource", "kirgksource", "kirgmsource", "kirgssource",
    "kirgtsource", "kirguksource", "kirgusource", "kirgvsource", "kothernumeric", "kprimarynumeric",
    "krsunicode", "lb", "lc", "linebreak", "lowercasemapping", "na", "na1", "name", "namealias",
    "nfcqc", "nfcquickcheck", "nfdqc", "nfdquickcheck", "nfkccasefold", "nfkccf", "nfkcqc",
    "nfkcquickcheck", "nfkcscf", "nfkcsimplecasefold", "nfkdqc", "nfkdquickcheck", "nt",
    "numerictype", "numericvalue", "nv", "ocomment", "scf", "sfc", "simplecasefolding",
    "simplelowercasemapping", "simpletitlecasemapping", "simpleuppercasemapping", "slc", "stc",
    "suc", "tc", "titlecasemapping", "uc", "unicode1name", "unicoderadicalstroke",
    "uppercasemapping", "urs", "verticalorientation", "vo", "xonfc", "xonfd", "xonfkc", "xonfkd"]

/-- The values that can be asked of a property, if there is such a property. -/
def values? (name : String) : Option (String → Option CharSet) :=
  named? name valuedProperties <|>
    if (named? name binaryProperties).isSome || otherProperties.contains name then
      some fun _ => none
    else none

/-- The characters that the query describes if it is not denied. -/
def characters : PropertyQuery → Except Fault CharSet
  | named name =>
    let name := plainName name
    match named? name binaryProperties <|> category? name <|>
      (script? name).map Script.characters with
    | some set => .ok set
    | none => .error (if emptyNames.contains name then .unknownPropertyValue else .unknownProperty)
  | valued name value _ =>
    match values? (plainName name) with
    | none => .error .unknownProperty
    | some values =>
      match values (plainName value) with
      | some set => .ok set
      | none => .error .unknownPropertyValue

end PropertyQuery

end Conform.Pattern
