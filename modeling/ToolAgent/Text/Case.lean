import ToolAgent.Text.CaseTable

/-!
# Upper and lower case

Lower case of a text, letter by letter except for two: a capital I with a dot becomes two
characters, and a capital sigma at the end of a word becomes the final sigma.
-/

namespace ToolAgent.Text.Case

/-- Whether a character is an upper-case letter. -/
def isUpper (c : Char) : Bool :=
  if c.toNat < 128 then c.isUpper else inRanges upperRanges c.toNat

/-- Whether a character is a lower-case letter. -/
def isLower (c : Char) : Bool :=
  if c.toNat < 128 then c.isLower else inRanges lowerRanges c.toNat

/-- Letters that have case at all. -/
def isCased (c : Char) : Bool := isUpper c || isLower c || inRanges titleRanges c.toNat

/-- Characters that do not separate a letter from the word it stands in. -/
def isIgnorable (c : Char) : Bool := inRanges ignorableRanges c.toNat

/-- The lower case of one character. -/
def lowerChar (c : Char) : List Char :=
  if c.toNat < 128 then [c.toLower]
  else if c.toNat = 0x130 then ['i', '\u0307']
  else
    match lowerings.find? fun (first, last, step, _) =>
      first ≤ c.toNat && c.toNat ≤ last && (c.toNat - first) % step == 0 with
    | some (_, _, _, distance) => [Char.ofNat ((c.toNat : Int) + distance).toNat]
    | none => [c]

/-- Whether the first character that is not ignorable is a letter with case. -/
def meetsCased (cs : List Char) : Bool :=
  match cs.dropWhile isIgnorable with
  | c :: _ => isCased c
  | [] => false

/-- Lower case of `rest`, where `seen` are the characters before it, the nearest first. -/
def lowerFrom (seen : List Char) : (rest : List Char) → List Char
  | [] => []
  | c :: rest =>
    let low :=
      if c.toNat = 0x3A3 then
        if meetsCased seen && !meetsCased rest then ['\u03C2'] else ['\u03C3']
      else lowerChar c
    low ++ lowerFrom (c :: seen) rest

/-- The lower case of a text. -/
def lower (s : String) : String := String.ofList (lowerFrom [] s.toList)

end ToolAgent.Text.Case
