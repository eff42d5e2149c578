import Conform.Unicode.CharClass

/-! Quoted text in which every character that would not show on its own is escaped by its code. -/

namespace Conform.Text

def hexEscape (c : Char) : List Char := ['\\', 'u', '\x7b'] ++ Nat.toDigits 16 c.toNat ++ ['\x7d']

def escapeHidden (c : Char) : List Char :=
  if c = '"' then ['\\', '"']
  else if c = '\\' then ['\\', '\\']
  else if c = '\x00' then ['\\', '0']
  else if c = '\t' then ['\\', 't']
  else if c = '\n' then ['\\', 'n']
  else if c = '\r' then ['\\', 'r']
  else if !Unicode.isPrintable c then hexEscape c
  else [c]

def escaped (s : String) : String :=
  String.ofList ('"' :: s.toList.flatMap escapeHidden ++ ['"'])

end Conform.Text
