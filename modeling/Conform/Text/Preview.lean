/-! Previews: a text cut after a number of characters, with dots where it was cut. -/

namespace Conform.Text

/-- The number of characters of a value that a message repeats. -/
def previewLimit : Nat := 64

/-- The bytes at which characters start, the first of them at `start`. -/
def charStarts (start : Nat) : List Char → List Nat
  | [] => []
  | c :: rest => start :: charStarts (start + c.utf8Size) rest

/-- The byte at which the character with an index starts, if there is such a character. -/
def charStart? (s : String) (index : Nat) : Option Nat := (charStarts 0 s.toList)[index]?

def preview (s : String) (limit : Nat) : String :=
  match charStart? s limit with
  | some cut => String.Pos.Raw.extract s 0 ⟨cut⟩ ++ "..."
  | none => s

end Conform.Text
