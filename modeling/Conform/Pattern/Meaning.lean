import Conform.Pattern.Expression
import Conform.Pattern.Property
import Conform.Pattern.Tree
import Conform.Unicode.CaseFolding

/-! What the parts of a pattern mean under the settings in force where they stand. -/

namespace Conform.Pattern

namespace Settings

def fold (settings : Settings) (set : CharSet) : CharSet :=
  if !settings.anyCase then set
  else if settings.ascii then Unicode.asciiFoldClosure set
  else Unicode.foldClosure set

/-- A set that is denied or not, the case of letters being settled before. What is not plain can be
no part of it where patterns match plain characters only. -/
def foldAndDeny (settings : Settings) (set : CharSet) (denied : Bool) (span : Span) :
    Except Error CharSet :=
  if denied && settings.ascii then throw ⟨.invalidEncoding, span, none⟩
  else
    let set := settings.fold set
    return if denied then set.complement else set

def dot (settings : Settings) : CharSet :=
  if settings.dotAll then .everything
  else if settings.crlf then (CharSet.ofCodes [0xA, 0xD]).complement
  else (CharSet.single '\n').complement

/-- The set that a letter such as `d` or `w` stands for. -/
def shorthand (settings : Settings) (letter : Char) : CharSet :=
  match letter with
  | 'd' => if settings.ascii then .asciiDigit else Unicode.Table.decimalNumber
  | 's' => if settings.ascii then .asciiSpace else Unicode.Table.whiteSpace
  | _ => if settings.ascii then .asciiWord else Unicode.wordCharacters

/-- The set that a capital letter denies, or that a small letter stands for. -/
def shorthandSet (settings : Settings) (letter : Char) (span : Span) : Except Error CharSet :=
  let set := settings.shorthand letter.toLower
  if !letter.isUpper then return set
  else if settings.ascii then throw ⟨.invalidEncoding, span, none⟩
  else return set.complement

def propertySet (settings : Settings) (text : List Char) (negated : Bool) (span : Span) :
    Except Error CharSet :=
  if settings.ascii then throw ⟨.unicodeForbidden, span, none⟩
  else
    let query := PropertyQuery.ofText text
    match query.characters with
    | .error fault => throw ⟨fault, span, none⟩
    | .ok set => settings.foldAndDeny set (negated != query.isDenied) span

end Settings

namespace Sign

/-- The set that a part inside brackets stands for. -/
def characters (settings : Settings) (span : Span) : Sign → Except Error CharSet
  | literal c =>
    if settings.ascii && 0x80 ≤ c.toNat then throw ⟨.unicodeForbidden, span, none⟩
    else return .single c
  | byte c =>
    if settings.ascii && 0x80 ≤ c.toNat then throw ⟨.invalidEncoding, span, none⟩
    else return .single c
  | shorthand letter => settings.shorthandSet letter span
  | property text negated => settings.propertySet text negated span
  | dot | place _ => return .nothing

def meaning (settings : Settings) (span : Span) : Sign → Except Error Expression
  | literal c => return .ofSet (settings.fold (.single c))
  | byte c =>
    if settings.ascii && 0x80 ≤ c.toNat then throw ⟨.invalidEncoding, span, none⟩
    else return .ofSet (settings.fold (.single c))
  | dot =>
    if settings.ascii then throw ⟨.invalidEncoding, span, none⟩
    else return .ofSet settings.dot
  | place test => return .at test
  | shorthand letter => return .ofSet (← settings.shorthandSet letter span)
  | property text negated => return .ofSet (← settings.propertySet text negated span)

end Sign

def SetOperator.apply : SetOperator → CharSet → CharSet → CharSet
  | intersection => .inter
  | difference => .diff
  | symmetricDifference => .symmDiff

namespace BracketTree

mutual

/-- The set that is written inside brackets. -/
def characters (settings : Settings) : BracketTree → Except Error CharSet
  | nothing _ => return .nothing
  | sign part span => part.characters settings span
  | named set negated span => settings.foldAndDeny set negated span
  | range low lowSpan high highSpan => do
    let _ ← low.characters settings lowSpan
    let _ ← high.characters settings highSpan
    return ((do return CharSet.range (← low.char?) (← high.char?)) : Option CharSet).getD .nothing
  | bracket negated content span => do
    settings.foldAndDeny (← content.characters settings) negated span
  | union items _ => unionOf settings items
  | operation operator left right _ => do
    let left ← left.characters settings
    let right ← right.characters settings
    return operator.apply (settings.fold left) (settings.fold right)

def unionOf (settings : Settings) : List BracketTree → Except Error CharSet
  | [] => return .nothing
  | item :: rest => do
    let set ← item.characters settings
    return set.union (← unionOf settings rest)

end

end BracketTree

namespace Tree

mutual

/-- The expression that a pattern stands for. -/
def meaning : Tree → Except Error Expression
  | empty _ | settings _ => return .empty
  | sign part inForce span => part.meaning inForce span
  | bracket set inForce => return .ofSet (← set.characters inForce)
  | group (some index) body _ => return .capture index (← body.meaning)
  | group none body _ => body.meaning
  | repetition body min max _ => return .repeated (← body.meaning) min max
  | sequence items _ => return .sequenceOf (← meanings items)
  | choice branches _ => return .choiceOf (← meanings branches)

def meanings : List Tree → Except Error (List Expression)
  | [] => return []
  | item :: rest => do
    let first ← item.meaning
    return first :: (← meanings rest)

end

end Tree

end Conform.Pattern
