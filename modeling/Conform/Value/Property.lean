import Conform.Entries
import Conform.Value.Basic

/-! Reading a property of a value by its key. -/

namespace Conform

/-- Indices and lengths stay below this bound. -/
def indexBound : Nat := UInt64.size

/-- The index that a key writes in plain decimal digits, without a sign or a superfluous zero. -/
def readIndex? (key : String) : Option Nat :=
  let digits := key.toList
  let index := Nat.ofDigitChars 10 digits 0
  if digits.isEmpty || (1 < digits.length && digits.head? == some '0') then none
  else if digits.all Char.isDigit && index < indexBound then some index
  else none

namespace Value

/-- The entries of an object, the elements and the length of an array, and the source of a pattern;
every other property is undefined. -/
def property (v : Value) (key : String) : Value :=
  match v with
  | object _ _ entries => (Entries.get? entries key).getD undefined
  | array _ items =>
    if key = "length" then number (.ofNat items.length)
    else ((readIndex? key).bind (items[·]?)).getD undefined
  | regexp _ pattern => if key = "source" then string pattern.source else undefined
  | _ => undefined

end Value

end Conform
