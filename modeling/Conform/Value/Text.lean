import Conform.Number.Text
import Conform.Text.Preview
import Conform.Text.Quoted
import Conform.Value.Basic

/-! The written form of values in messages. -/

namespace Conform.Value

mutual

def text : Value → String
  | undefined => "undefined"
  | null => "null"
  | boolean b => if b then "true" else "false"
  | number n => n.text
  | bigint n => Number.signText (n < 0) ++ Nat.repr n.natAbs ++ "n"
  | string s => Text.quoted s
  | symbol _ description => "Symbol(" ++ description ++ ")"
  | array _ items => "[" ++ ", ".intercalate (texts items) ++ "]"
  | object _ cls entries =>
    (match cls with | some c => c.name ++ " " | none => "") ++ "\x7b" ++
      ",".intercalate (entryTexts entries) ++ (if entries.isEmpty then "\x7d" else " \x7d")
  | regexp _ pattern => pattern.text
  | function (.plain _ name) => "[Function: " ++ name ++ "]"
  | function (.constructor _ cls) => "[class " ++ cls.name ++ "]"

def texts : List Value → List String
  | [] => []
  | v :: rest => v.text :: texts rest

def entryTexts : List (String × Value) → List String
  | [] => []
  | (key, v) :: rest => (" " ++ key ++ ": " ++ v.text) :: entryTexts rest

end

/-- The written form, cut to the length that a message repeats. -/
def describe (v : Value) : String := Text.preview v.text Text.previewLimit

end Conform.Value
