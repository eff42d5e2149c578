import Conform.Pattern.Meaning
import Conform.Pattern.Nesting
import Conform.Pattern.Reader
import Conform.Pattern.Rejection
import Conform.Pattern.Search

/-! Patterns: a source text together with the expression it reads as. -/

namespace Conform

/-- Faults of the text come first, then parts that lie too deep, then parts without a meaning, and
at last the size of the whole. -/
def Pattern.Expression.read (source : String) : Except Pattern.Rejection Pattern.Expression := do
  let tree ← (Tree.read source).mapError .malformed
  match tree.tooDeep? nestingLimit with
  | some span => throw (.malformed ⟨.nestedTooDeep nestingLimit, span, none⟩)
  | none =>
    let e ← tree.meaning.mapError .malformed
    if e.isOversized then throw (.oversized footprintLimit) else return e

structure Pattern where
  source : String
  expression : Pattern.Expression
  reads : Pattern.Expression.read source = .ok expression

namespace Pattern

def ofSource (source : String) : Except Rejection Pattern :=
  match h : Expression.read source with
  | .ok expression => .ok ⟨source, expression, h⟩
  | .error rejection => .error rejection

/-- Whether the pattern matches some stretch of the text. -/
def isFoundIn (p : Pattern) (s : String) : Bool := p.expression.occursIn s

def text (p : Pattern) : String := "/" ++ p.source ++ "/"

end Pattern

end Conform
