import ToolAgent.Json.Value
import ToolAgent.Number.Shortest

/-!
# JSON text of a value

`Value.text` writes a value without spaces. In a string only the quote, the
backslash and the characters below U+0020 are escaped. A number that is not an integer has the
fewest digits that read back, and always a point or an exponent.
-/

namespace ToolAgent.Json

/-- The two hexadecimal digits of a number below 256. -/
def hexByte (n : Nat) : List Char := [Nat.digitChar (n / 16 % 16), Nat.digitChar (n % 16)]

/-- A character inside the quotes. -/
def escapeChar (c : Char) : List Char :=
  if c = '"' then ['\\', '"']
  else if c = '\\' then ['\\', '\\']
  else if c = '\n' then ['\\', 'n']
  else if c = '\r' then ['\\', 'r']
  else if c = '\t' then ['\\', 't']
  else if c.toNat = 8 then ['\\', 'b']
  else if c.toNat = 12 then ['\\', 'f']
  else if c.toNat < 0x20 then ['\\', 'u', '0', '0'] ++ hexByte c.toNat
  else [c]

/-- A string between quotes. -/
def quote (s : String) : String :=
  String.ofList ('"' :: (s.toList.flatMap escapeChar ++ ['"']))

/-- The text of a number. -/
def Number.text : Number → String
  | .int n => toString n
  | .real x => Binary.double.exponentText x

namespace Value

mutual

/-- The text of a value. -/
def text : Value → String
  | .null => "null"
  | .bool b => if b then "true" else "false"
  | .number n => n.text
  | .string s => quote s
  | .list items => "[" ++ textItems items ++ "]"
  | .object members => "\x7b" ++ textMembers members ++ "\x7d"

/-- The texts of the items, with commas. -/
def textItems : List Value → String
  | [] => ""
  | [v] => v.text
  | v :: rest => v.text ++ "," ++ textItems rest

/-- The texts of the members, with commas. -/
def textMembers : List (String × Value) → String
  | [] => ""
  | [(k, v)] => quote k ++ ":" ++ v.text
  | (k, v) :: rest => quote k ++ ":" ++ v.text ++ "," ++ textMembers rest

end

end Value

end ToolAgent.Json
