import ToolAgent.Error
import ToolAgent.Files.Operations
import ToolAgent.Json.Reader
import ToolAgent.Tool.Output

/-!
# Creating and editing files

A file is created with a text, edited by replacing a part that occurs exactly once, or extended at
its end. Created and extended files end with a line end, unless they are empty.
-/

namespace ToolAgent

open Json (Value Fault)
open Json.Read (Record field need)

/-- What to write. -/
inductive FileWrite
  | create (path : String) (text : Option String)
  | replace (path old new : String)
  | append (path new : String)
deriving DecidableEq, Repr

namespace FileWrite

/-! ### From arguments -/

/-- The arguments of a call, as they are read. -/
structure Draft where
  path : Option String
  text : Option (Option String)
  old : Option String
  new : Option String

/-- A call of which nothing has been read. -/
def Draft.empty : Draft := ⟨none, none, none, none⟩

/-- The field for the path. -/
def pathField : Json.Read.Field Draft :=
  field "path" Json.Read.string Draft.path (fun a d => { d with path := some a })

/-- The field for the new text. -/
def newField : Json.Read.Field Draft :=
  field "new_str" Json.Read.string Draft.new (fun a d => { d with new := some a })

/-- How a call that creates a file is read: the text may be missing. -/
def createRecord : Record Draft FileWrite where
  what := "struct variant FsWrite::Create"
  whatCounted := "struct variant FsWrite::Create with 2 elements"
  fields := [pathField,
    field "file_text" (Json.Read.option Json.Read.string) Draft.text
      (fun a d => { d with text := some a })]
  start := .empty
  finish absence d := do
    let path ← need absence 0 "path" d.path
    let text ← absence.optional 1 d.text
    return .create path text

/-- How a call that replaces a text is read. -/
def replaceRecord : Record Draft FileWrite where
  what := "struct variant FsWrite::StrReplace"
  whatCounted := "struct variant FsWrite::StrReplace with 3 elements"
  fields := [pathField,
    field "old_str" Json.Read.string Draft.old (fun a d => { d with old := some a }), newField]
  start := .empty
  finish absence d := do
    let path ← need absence 0 "path" d.path
    let old ← need absence 1 "old_str" d.old
    let new ← need absence 2 "new_str" d.new
    return .replace path old new

/-- How a call that appends a text is read. -/
def appendRecord : Record Draft FileWrite where
  what := "struct variant FsWrite::Append"
  whatCounted := "struct variant FsWrite::Append with 2 elements"
  fields := [pathField, newField]
  start := .empty
  finish absence d := do
    let path ← need absence 0 "path" d.path
    let new ← need absence 1 "new_str" d.new
    return .append path new

/-- Reads the arguments of a call. -/
def ofArgs (args : Value) : Except Fault FileWrite :=
  Json.Read.tagged "command" "FsWrite" ["create", "str_replace", "append"]
    (fun name =>
      if name = "create" then some createRecord.readTagged
      else if name = "str_replace" then some replaceRecord.readTagged
      else if name = "append" then some appendRecord.readTagged
      else none) args

/-! ### Before the call -/

/-- The path that is written. -/
def path : FileWrite → String
  | create path _ => path
  | replace path _ _ => path
  | append path _ => path

/-- How many lines a text has. -/
def lineCount (text : String) : String := toString (Text.lines text).length

/-- The call in one line. -/
def describe (w : Workplace) (c : FileWrite) : String :=
  "Path: " ++ w.shown c.path ++
    match c with
    | create _ text => " (create, " ++ lineCount (text.getD "") ++ " lines)"
    | replace _ old new =>
      " (replace " ++ lineCount old ++ " lines with " ++ lineCount new ++ " lines)"
    | append _ new => " (append " ++ lineCount new ++ " lines)"

/-- Whether the path can be written in the way that is asked for. -/
def validate (w : Workplace) (tree : Entry) (c : FileWrite) : Except Error Unit :=
  let path := w.resolve c.path
  if Text.isBlankText c.path then .error (.tool "Path must not be empty")
  else match c with
    | create _ _ =>
      if Files.isDirAt tree w.base path then
        .error (.tool ("'" ++ path ++ "' is a directory"))
      else .ok ()
    | replace _ _ _ | append _ _ =>
      if Files.isFileAt tree w.base path then .ok ()
      else .error (.tool ("The provided path must exist in order to edit it: " ++ path))

/-! ### Texts -/

/-- The text with a line end, unless it is empty or has one. -/
def closeLine (text : List Char) : List Char :=
  if text = [] || text.getLast? = some '\n' then text else text ++ ['\n']

/-- What is wrong with a replacement. -/
inductive ReplaceFault
  | absent (old : String)
  | ambiguous (count : Nat)
deriving DecidableEq, Repr

/-- What is wrong, in words. -/
def ReplaceFault.message : ReplaceFault → String
  | absent old => String.join ["no occurrences of \"", old, "\" were found"]
  | ambiguous count =>
    String.join [toString count, " occurrences of old_str were found when only 1 is expected"]

/-- How often `pat` occurs, counted from the left without overlaps; the empty text occurs before
each character and at the end. -/
def occurrences (pat text : List Char) : Nat :=
  if pat = [] then text.length + 1 else (Text.splitOnText pat text).length - 1

/-- The text with the only occurrence of `old` replaced. -/
def replaceOnce (text old new : List Char) : Except ReplaceFault (List Char) :=
  match occurrences old text with
  | 0 => .error (.absent (String.ofList old))
  | 1 =>
    match Text.cut? old text with
    | some (before, rest) => .ok (before ++ new ++ rest)
    | none => .ok text
  | n => .error (.ambiguous n)

/-- The text extended by `new`, each of the two on lines of its own. -/
def appendLines (text new : List Char) : List Char :=
  let whole := closeLine text ++ new
  if whole.getLast? = some '\n' then whole else whole ++ ['\n']

/-! ### The call -/

/-- The tree with a file's text set. -/
def store (w : Workplace) (tree : Entry) (path : String) (text : List Char) : Except Error Entry :=
  match Files.writeBytes tree w.base path (Utf8.encode text) with
  | .ok tree => .ok tree
  | .error e => .error (.io e.message)

/-- A file's text. -/
def load (w : Workplace) (tree : Entry) (path : String) : Except Error (List Char) :=
  match Files.readText tree w.base path with
  | .ok text => .ok text.toList
  | .error e => .error (.io e.message)

/-- Makes the directory of a file, and those above it. -/
def prepare (w : Workplace) (tree : Entry) (path : String) : Except FileError Unit × Entry :=
  match Path.parent? path with
  | some parent => Files.makeDirs tree w.base parent
  | none => (.ok (), tree)

/-- Writes: whether it succeeded, and the tree after it. -/
def run (w : Workplace) (tree : Entry) (c : FileWrite) : Except Error Output × Entry :=
  let path := w.resolve c.path
  let finish (outcome : Except Error Entry) (tree : Entry) : Except Error Output × Entry :=
    match outcome with
    | .ok tree => (.ok (.text ""), tree)
    | .error e => (.error e, tree)
  match c with
  | create _ text =>
    match prepare w tree path with
    | (.error e, tree) => (.error (.io e.message), tree)
    | (.ok (), tree) => finish (store w tree path (closeLine (text.getD "").toList)) tree
  | replace _ old new =>
    match load w tree path with
    | .error e => (.error e, tree)
    | .ok text =>
      match replaceOnce text old.toList new.toList with
      | .error fault => (.error (.tool fault.message), tree)
      | .ok text => finish (store w tree path text) tree
  | append _ new =>
    match load w tree path with
    | .error e => (.error e, tree)
    | .ok text => finish (store w tree path (appendLines text new.toList)) tree

end FileWrite

end ToolAgent
