import ToolAgent.Number.Shortest
import ToolAgent.Text.Basic
import ToolAgent.Toml.Value

/-!
# Writing TOML

A string is written in the plainest way that can hold it: between double quotes if nothing in it has
to be marked, else between single quotes, else between three quotes of either kind, and with marks
only if none of these will do.
-/

namespace ToolAgent.Toml

/-! ### Strings -/

/-- How often a character occurs in a row, at most. -/
def longestRun (c : Char) (cs : List Char) : Nat :=
  (cs.foldl (fun (best, run) d =>
    let run := if d = c then run + 1 else 0
    (max best run, run)) (0, 0)).1

/-- A control character that cannot stand for itself in any string. -/
def needsCode (c : Char) : Bool := (c.toNat < 0x20 && c ≠ '\t' && c ≠ '\n') || c.toNat = 0x7F

/-- Four hexadecimal digits. -/
def fourDigits (n : Nat) : List Char :=
  let ds := (Nat.toDigits 16 n).map Char.toUpper
  List.replicate (4 - ds.length) '0' ++ ds

/-- Text with marks; quotes need one where more than `quotes` stand in a row, and ends of lines do
unless `long`. -/
def marked (quotes : Nat) (long : Bool) : (run : Nat) → List Char → List Char
  | _, [] => []
  | run, c :: cs =>
    if c = '"' then
      if run < quotes then c :: marked quotes long (run + 1) cs
      else '\\' :: c :: marked quotes long 0 cs
    else
      let shown : List Char :=
        if c.toNat = 8 then ['\\', 'b']
        else if c = '\t' then ['\\', 't']
        else if c = '\n' then (if long then ['\n'] else ['\\', 'n'])
        else if c.toNat = 12 then ['\\', 'f']
        else if c = '\r' then ['\\', 'r']
        else if c = '\\' then ['\\', '\\']
        else if needsCode c then '\\' :: 'u' :: fourDigits c.toNat
        else [c]
      shown ++ marked quotes long 0 cs

/-- A string with its quotes. -/
def stringText (s : String) : String :=
  let cs := s.toList
  let coded := cs.any needsCode
  let backslash := cs.contains '\\'
  let long := cs.contains '\n'
  let doubles := longestRun '"' cs
  let singles := longestRun '\'' cs
  let start : List Char := if long then ['\n'] else []
  String.ofList <|
    if !coded && !backslash && doubles = 0 && !long then ['"'] ++ marked 0 false 0 cs ++ ['"']
    else if !coded && singles = 0 && !long then ['\''] ++ cs ++ ['\'']
    else if !coded && !backslash && doubles ≤ 2 then
      ['"', '"', '"'] ++ start ++ marked 2 true 0 cs ++ ['"', '"', '"']
    else if !coded && singles ≤ 2 then ['\'', '\'', '\''] ++ start ++ cs ++ ['\'', '\'', '\'']
    else if long then ['"', '"', '"'] ++ start ++ marked 2 true 0 cs ++ ['"', '"', '"']
    else ['"'] ++ marked 0 false 0 cs ++ ['"']

/-! ### Other values -/

/-- A number with a point, as one of 64 bits. -/
def floatText (x : Binary) : String :=
  match Binary.double.fit x with
  | .nan => "nan"
  | .infinite negative => Binary.signText negative ++ "inf"
  | x =>
    let text := Binary.double.plainText x
    if text.toList.contains '.' then text else text ++ ".0"

/-- A truth value as it is written. -/
def boolText (b : Bool) : String := if b then "true" else "false"

/-- A list of strings: each on a line of its own if there are several. -/
def stringsText (items : List String) : String :=
  match items with
  | [] => "[]"
  | [s] => "[" ++ stringText s ++ "]"
  | items => "[\n" ++ String.join (items.map fun s => "    " ++ stringText s ++ ",\n") ++ "]"

/-- A line that sets a key. -/
def setting (key text : String) : String := key ++ " = " ++ text ++ "\n"

/-- A table under its header. -/
def tableText (name : String) (settings : List String) : String :=
  "[" ++ name ++ "]\n" ++ String.join settings

end ToolAgent.Toml
