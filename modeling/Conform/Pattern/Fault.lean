/-! What can be wrong with a pattern, where, and how that is drawn under the pattern. -/

namespace Conform.Pattern

inductive Fault where
  | unclosedGroup | unopenedGroup
  | unclosedGroupName | emptyGroupName | invalidGroupName | duplicateGroupName
  | unclosedClass | reversedRange | rangeBound | escapeInClass
  | missingOperand | unclosedCount | missingCount | reversedCount | hugeDecimal
  | lookAround | backreference
  | unknownEscape | unfinishedEscape
  | invalidHexDigit | emptyHex | notACharacter
  | unknownFlag | unfinishedFlags | repeatedFlag | repeatedNegation | danglingNegation
  | unclosedWordPlace | unknownWordPlace | unfinishedWordPlace
  | invalidPropertyName | unknownProperty | unknownPropertyValue
  | unicodeForbidden | invalidEncoding
  | nestedTooDeep (limit : Nat)
deriving DecidableEq

def Fault.text : Fault → String
  | unclosedGroup => "unclosed group"
  | unopenedGroup => "unopened group"
  | unclosedGroupName => "unclosed capture group name"
  | emptyGroupName => "empty capture group name"
  | invalidGroupName => "invalid capture group character"
  | duplicateGroupName => "duplicate capture group name"
  | unclosedClass => "unclosed character class"
  | reversedRange => "invalid character class range, the start must be <= the end"
  | rangeBound => "invalid range boundary, must be a literal"
  | escapeInClass => "invalid escape sequence found in character class"
  | missingOperand => "repetition operator missing expression"
  | unclosedCount => "unclosed counted repetition"
  | missingCount => "repetition quantifier expects a valid decimal"
  | reversedCount => "invalid repetition count range, the start must be <= the end"
  | hugeDecimal => "decimal literal invalid"
  | lookAround => "look-around, including look-ahead and look-behind, is not supported"
  | backreference => "backreferences are not supported"
  | unknownEscape => "unrecognized escape sequence"
  | unfinishedEscape => "incomplete escape sequence, reached end of pattern prematurely"
  | invalidHexDigit => "invalid hexadecimal digit"
  | emptyHex => "hexadecimal literal empty"
  | notACharacter => "hexadecimal literal is not a Unicode scalar value"
  | unknownFlag => "unrecognized flag"
  | unfinishedFlags => "expected flag but got end of regex"
  | repeatedFlag => "duplicate flag"
  | repeatedNegation => "flag negation operator repeated"
  | danglingNegation => "dangling flag negation operator"
  | unclosedWordPlace =>
    "special word boundary assertion is either unclosed or contains an invalid character"
  | unknownWordPlace =>
    "unrecognized special word boundary assertion, " ++
      "valid choices are: start, end, start-half or end-half"
  | unfinishedWordPlace =>
    "found either the beginning of a special word boundary or a bounded repetition on a \\b " ++
      "with an opening brace, but no closing brace"
  | invalidPropertyName => "invalid Unicode character class"
  | unknownProperty => "Unicode property not found"
  | unknownPropertyValue => "Unicode property value not found"
  | unicodeForbidden => "Unicode not allowed here"
  | invalidEncoding => "pattern can match invalid UTF-8"
  | nestedTooDeep limit =>
    String.join ["exceed the maximum number of nested parentheses/brackets (", Nat.repr limit, ")"]

/-- The characters of a pattern from index `start` up to, not including, `stop`. -/
structure Span where
  start : Nat
  stop : Nat
deriving DecidableEq

/-- A fault, where it shows, and an earlier place that it clashes with. -/
structure Error where
  fault : Fault
  span : Span
  clash : Option Span
deriving DecidableEq

/-- A place in a pattern of several lines, both counted from zero. -/
structure LinePlace where
  line : Nat
  column : Nat

def linePlace (pattern : List Char) (index : Nat) : LinePlace :=
  let before := pattern.take index
  ⟨before.count '\n', (before.reverse.takeWhile (· != '\n')).length⟩

/-- The lines of a text without their ends. A return belongs to the line end that it stands before,
and an end of the text after a line end begins no line. -/
def linesOf (text : List Char) : List (List Char) :=
  let pieces := text.splitOn '\n'
  let ended := pieces.dropLast.map fun line =>
    if line.getLast? = some '\r' then line.dropLast else line
  let last := pieces.getLast?.getD []
  if last.isEmpty then ended else ended ++ [last]

namespace Error

def spans (e : Error) : List Span := (e.clash.toList ++ [e.span]).mergeSort (·.start ≤ ·.start)

/-- Carets under the columns of one line, at least one for each span. -/
def carets (marks : List (Nat × Nat)) : String :=
  String.join (go 0 marks)
where
  go (column : Nat) : List (Nat × Nat) → List String
    | [] => []
    | (start, stop) :: rest =>
      let width := max 1 (stop - start)
      ("".pushn ' ' (start - column)).pushn '^' width :: go (max column start + width) rest

/-- A line of the pattern behind its margin, with a line of carets if anything on it is marked. -/
def noteLine (margin : String) (line : List Char) (marks : List (Nat × Nat)) : List String :=
  let shown := margin ++ String.ofList line
  if marks.isEmpty then [shown] else [shown, "".pushn ' ' margin.length ++ carets marks]

def marksOn (pattern : List Char) (spans : List Span) (line : Nat) : List (Nat × Nat) :=
  spans.filterMap fun span =>
    let first := linePlace pattern span.start
    let last := linePlace pattern span.stop
    if first.line = line ∧ last.line = line then some (first.column, last.column) else none

/-- Line numbers are written right-aligned. -/
def numberMargin (count line : Nat) : String :=
  let number := Nat.repr (line + 1)
  "".pushn ' ' ((Nat.repr count).length - number.length) ++ number ++ ": "

def lineSpanNote (pattern : List Char) (span : Span) : Option String :=
  let first := linePlace pattern span.start
  let last := linePlace pattern span.stop
  if first.line = last.line then none
  else
    some (String.join ["on line ", Nat.repr (first.line + 1), " (column ",
      Nat.repr (first.column + 1), ") through line ", Nat.repr (last.line + 1), " (column ",
      Nat.repr last.column, ")"])

/-- The full account of an error: the pattern with the faulty stretches marked, then the cause. A
pattern of several lines is framed and its lines are numbered. -/
def render (e : Error) (source : String) : String :=
  let pattern := source.toList
  let lines := linesOf pattern
  let framed := pattern.contains '\n'
  let count := lines.length + (if pattern.getLast? = some '\n' then 1 else 0)
  let notes := (lines.zip (List.range lines.length)).flatMap fun (line, index) =>
    noteLine (if 1 < count then numberMargin count index else "    ") line
      (marksOn pattern e.spans index)
  let frame := if framed then ["".pushn '~' 79] else []
  let remarks := if framed then e.spans.filterMap (lineSpanNote pattern) else []
  "\n".intercalate
    (["regex parse error:"] ++ frame ++ notes ++ frame ++ remarks ++ ["error: " ++ e.fault.text])

end Error

end Conform.Pattern
