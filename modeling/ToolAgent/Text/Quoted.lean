import ToolAgent.Text.Basic
import ToolAgent.Text.PrintTable

/-!
# Quoted text for messages

A text between double quotes in which every character can be seen: quotes and backslashes are marked
with a backslash, the usual controls by letter, and characters without a shape of their own by their
number in braces.
-/

namespace ToolAgent.Text.Quoted

/-- The hexadecimal digits of a number. -/
def hex (n : Nat) : List Char := Nat.toDigits 16 n

/-- One character inside the quotes. -/
def showChar (c : Char) : List Char :=
  if c = '"' then ['\\', '"']
  else if c = '\\' then ['\\', '\\']
  else if c = '\n' then ['\\', 'n']
  else if c = '\r' then ['\\', 'r']
  else if c = '\t' then ['\\', 't']
  else if c.toNat = 0 then ['\\', '0']
  else if Case.inRanges shapelessRanges c.toNat then ['\\', 'u', '\x7b'] ++ hex c.toNat ++ ['\x7d']
  else [c]

/-- The text between quotes. -/
def quote (s : String) : String :=
  String.ofList ('"' :: (s.toList.flatMap showChar ++ ['"']))

end ToolAgent.Text.Quoted
