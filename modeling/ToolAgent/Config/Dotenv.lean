import ToolAgent.Files.Operations
import ToolAgent.Text.Alphanumeric
import ToolAgent.Text.Basic

/-!
# Variables from a file

A file named `.env` sets variables of the environment, one on a line: a name, an equals sign and a
value. A value may be quoted, may go on over several lines inside quotes, and may refer to variables
by a dollar sign. Reading stops at the first line that cannot be understood; the lines before it
count.
-/

namespace ToolAgent

/-- Variables of the environment, the first of several with one name counting. -/
abbrev Variables := List (String × String)

namespace Dotenv

/-! ### Lines -/

/-- Where in a line a reader is. -/
inductive Mode
  | plain
  /-- After a blank, where a comment may start. -/
  | blank
  | escaped
  | strong
  | strongEscaped
  | weak
  | weakEscaped
deriving DecidableEq, Repr

/-- The mode after a character; nothing where a comment starts. -/
def Mode.next (m : Mode) (c : Char) : Option Mode :=
  let outside : Mode :=
    if c = '\\' then .escaped else if c = '"' then .weak else if c = '\'' then .strong else .plain
  match m with
  | .blank => if c = '#' then none else some outside
  | .plain => if Text.isBlank c && c ≠ '\n' && c ≠ '\r' then some .blank else some outside
  | .escaped => some .plain
  | .weak => some (if c = '\\' then .weakEscaped else if c = '"' then .plain else .weak)
  | .weakEscaped => some .weak
  | .strong => some (if c = '\\' then .strongEscaped else if c = '\'' then .plain else .strong)
  | .strongEscaped => some .strong

/-- Goes through a line: the mode at its end, or the part before a comment. -/
def scanLine (m : Mode) : List Char → Mode ⊕ List Char
  | [] => .inl m
  | c :: cs =>
    match m.next c with
    | none => .inr []
    | some m =>
      match scanLine m cs with
      | .inl m => .inl m
      | .inr before => .inr (c :: before)

/-- The lines of a file, each with its end; nothing for a line that is no text. -/
def rawLines (bs : Bytes) : List (Option (List Char)) :=
  match bs with
  | [] => []
  | b :: rest =>
    let line := (b :: rest).takeWhile (· ≠ 10)
    let after := (b :: rest).drop line.length
    let ended := after ≠ []
    Utf8.decode? (if ended then line ++ [10] else line) :: rawLines (after.drop 1)
termination_by bs.length
decreasing_by
  simp only [List.length_drop, List.length_cons]
  by_cases h : b = 10
  · simp [h]
  · simp [h]
    omega

/-- The end of a line taken away. -/
def dropEnd (line : List Char) : List Char :=
  match line.reverse with
  | '\n' :: '\r' :: rest | '\n' :: rest => rest.reverse
  | _ => line

/-- Lines put together where quotes go on; nothing in the place of what cannot be read. -/
def joinLines (m : Mode) (sofar : List Char) : List (Option (List Char)) → List (Option (List Char))
  | [] => if m = .plain then [] else [none]
  | none :: _ => [none]
  | some line :: rest =>
    let whole := sofar ++ line
    if (Text.dropBlanks whole).head? = some '#' then joinLines .plain [] rest
    else match scanLine m line with
      | .inr before => some (sofar ++ before) :: joinLines .plain [] rest
      | .inl .plain => some (dropEnd whole) :: joinLines .plain [] rest
      | .inl m => joinLines m whole rest

/-! ### Values -/

/-- What a reference to a variable stands for. -/
def lookUp (vars known : Variables) (name : String) : List Char :=
  ((vars.lookup name).getD ((known.lookup name).getD "")).toList

/-- Where in a value a reader is; a reference in the making has its name so far, the last character
first. -/
inductive Part
  | plain
  | afterEnd
  | escaped (quoted : Bool)
  | strong
  | weak
  | reference (quoted : Bool) (name : List Char)
  | braced (quoted : Bool) (name : List Char)
deriving DecidableEq, Repr

/-- Outside or inside double quotes. -/
def Part.of (quoted : Bool) : Part := if quoted then .weak else .plain

/-- A value from `part` on, what references stand for being given by `refer`. -/
def valueFrom (refer : List Char → List Char) (part : Part) : List Char → Option (List Char)
  | [] =>
    match part with
    | .plain | .afterEnd | .escaped false => some []
    | .reference false name => some (refer name.reverse)
    | _ => none
  | c :: cs =>
    let put (s : List Char) (part : Part) : Option (List Char) :=
      (valueFrom refer part cs).map (s ++ ·)
    match part with
    | .afterEnd =>
      if c = ' ' || c = '\t' then put [] .afterEnd else if c = '#' then some [] else none
    | .escaped quoted =>
      if c = '\\' || c = '\'' || c = '"' || c = '$' || c = ' ' then put [c] (.of quoted)
      else if c = 'n' then put ['\n'] (.of quoted)
      else none
    | .strong => if c = '\'' then put [] .plain else put [c] .strong
    | .reference quoted name =>
      if Text.isAlphanumeric c then put [] (.reference quoted (c :: name))
      else if c = '\x7b' && name = [] then put [] (.braced quoted [])
      else if c = '$' then put (refer name.reverse) (.reference quoted [])
      else put (refer name.reverse ++ [c]) (.of quoted)
    | .braced quoted name =>
      if c = '\x7d' then put (refer name.reverse) (.of quoted)
      else put [] (.braced quoted (c :: name))
    | .weak =>
      if c = '$' then put [] (.reference true [])
      else if c = '"' then put [] .plain
      else if c = '\\' then put [] (.escaped true)
      else put [c] .weak
    | .plain =>
      if c = '$' then put [] (.reference false [])
      else if c = '\'' then put [] .strong
      else if c = '"' then put [] .weak
      else if c = '\\' then put [] (.escaped false)
      else if c = ' ' || c = '\t' then put [] .afterEnd
      else put [c] .plain

/-! ### Settings -/

/-- The name at the start of a line. -/
def name? (cs : List Char) : Option (List Char × List Char) :=
  match cs with
  | c :: _ =>
    if c.isAlpha || c = '_' then
      let name := cs.takeWhile fun c => c.isAlphanum || c = '_' || c = '.'
      some (name, cs.drop name.length)
    else none
  | [] => none

/-- What a line sets: nothing on a line without a setting, and no answer for one that is wrong. -/
def readLine (vars known : Variables) (line : List Char) : Option (Option (String × String)) :=
  match Text.dropBlanks (Text.dropWhileEnd Text.isBlank line) with
  | [] | '#' :: _ => some none
  | cs => do
    let (first, rest) ← name? cs
    let rest := Text.dropBlanks rest
    -- the word may stand before a name, or be the name
    let (name, rest) ←
      if first = "export".toList && rest.head? ≠ some '=' then
        (name? rest).map fun (n, r) => (n, Text.dropBlanks r)
      else some (first, rest)
    let key := String.ofList name
    match rest with
    | '=' :: rest =>
      match Text.dropBlanks rest with
      | [] | '#' :: _ => some (some (key, ""))
      | value =>
        let refer (n : List Char) := lookUp vars known (String.ofList n)
        (valueFrom refer .plain value).map fun v => some (key, String.ofList v)
    | _ => none

/-- The variables with those of the lines added; one that is set already stays as it is. -/
def addLines (vars known : Variables) : List (Option (List Char)) → Variables
  | [] => vars
  | none :: _ => vars
  | some line :: rest =>
    match readLine vars known line with
    | none => vars
    | some none => addLines vars known rest
    | some (some (key, value)) =>
      let vars := if (vars.lookup key).isSome then vars
        else vars ++ [(key, value)]
      addLines vars ((key, value) :: known) rest

/-- The variables with those of a file added. -/
def addFile (vars : Variables) (content : Bytes) : Variables :=
  let content := match content with
    | 0xEF :: 0xBB :: 0xBF :: rest => rest
    | bs => bs
  addLines vars [] (joinLines .plain [] (rawLines content))

/-- The file in a directory or the nearest one above it. -/
def nearest? (tree : Entry) : (depth : Nat) → Location → Option Bytes
  | 0, _ => none
  | depth + 1, dir =>
    match Files.find tree dir ".env" with
    | .ok (_, .file content) => some content
    | .ok _ | .error .notFound => if dir = [] then none else nearest? tree depth dir.dropLast
    | .error _ => none

/-- The variables with those of the nearest file added. -/
def load (tree : Entry) (cwd : Location) (vars : Variables) : Variables :=
  match nearest? tree (cwd.length + 1) cwd with
  | some content => addFile vars content
  | none => vars

end Dotenv

end ToolAgent
