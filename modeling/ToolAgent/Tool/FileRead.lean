import ToolAgent.Error
import ToolAgent.Files.Operations
import ToolAgent.Json.Reader
import ToolAgent.Tool.Output

/-!
# Reading files and directories

A file is read by a range of lines, numbered from one; a negative number counts from the end, -1
being the last line. A directory is listed level by level down to a depth; links are listed and
never followed.
-/

namespace ToolAgent

open Json (Value Reader Fault)
open Json.Read (Record field need)

/-- What to read. -/
inductive FileRead
  | lines (path : String) (first last : Option Int32)
  | directory (path : String) (depth : Option UInt64)
deriving DecidableEq, Repr

namespace FileRead

/-! ### From arguments -/

/-- A number of 32 bits with a sign. -/
def int32 : Reader Int32 := fun node =>
  (Json.Read.integer "i32" (-0x80000000) 0x7FFFFFFF node).map Int32.ofInt

/-- The arguments for lines, as they are read. -/
structure LineDraft where
  path : Option String
  first : Option (Option Int32)
  last : Option (Option Int32)

/-- How a call that reads lines is read. -/
def lineRecord : Record LineDraft FileRead where
  what := "struct FsLine"
  whatCounted := "struct FsLine with 3 elements"
  fields := [
    field "path" Json.Read.string LineDraft.path (fun a d => { d with path := some a }),
    field "start_line" (Json.Read.option int32) LineDraft.first
      (fun a d => { d with first := some a }),
    field "end_line" (Json.Read.option int32) LineDraft.last
      (fun a d => { d with last := some a })]
  start := ⟨none, none, none⟩
  finish absence d := do
    let path ← need absence 0 "path" d.path
    let first ← absence.optional 1 d.first
    let last ← absence.optional 2 d.last
    return .lines path first last

/-- The arguments for a directory, as they are read. -/
structure DirectoryDraft where
  path : Option String
  depth : Option (Option UInt64)

/-- How a call that lists a directory is read. -/
def directoryRecord : Record DirectoryDraft FileRead where
  what := "struct FsDirectory"
  whatCounted := "struct FsDirectory with 2 elements"
  fields := [
    field "path" Json.Read.string DirectoryDraft.path (fun a d => { d with path := some a }),
    field "depth" (Json.Read.option (Json.Read.word "usize")) DirectoryDraft.depth
      (fun a d => { d with depth := some a })]
  start := ⟨none, none⟩
  finish absence d := do
    let path ← need absence 0 "path" d.path
    let depth ← absence.optional 1 d.depth
    return .directory path depth

/-- Reads the arguments of a call. -/
def ofArgs (args : Value) : Except Fault FileRead :=
  Json.Read.tagged "mode" "FsRead" ["Line", "Directory"]
    (fun name =>
      if name = "Line" then some lineRecord.readTagged
      else if name = "Directory" then some directoryRecord.readTagged
      else none) args

/-! ### Before the call -/

/-- The path that is read. -/
def path : FileRead → String
  | lines path _ _ => path
  | directory path _ => path

/-- The number of the first line that is asked for. -/
def firstLine (first : Option Int32) : Int := (first.getD 1).toInt

/-- The number of the last line that is asked for. -/
def lastLine (last : Option Int32) : Int := (last.getD (-1)).toInt

/-- How deep a listing goes. -/
def depthOf (depth : Option UInt64) : Nat := (depth.getD 0).toNat

/-- The call in one line. -/
def describe (w : Workplace) : FileRead → String
  | lines path first last =>
    String.join ["Reading file: ", w.shown path, ", from line ", toString (firstLine first), " to ",
      toString (lastLine last)]
  | directory path depth =>
    String.join ["Reading directory: ", w.shown path, " with depth ", toString (depthOf depth)]

/-- Whether there is something to read. -/
def validate (w : Workplace) (tree : Entry) (r : FileRead) : Except Error Unit :=
  let path := w.resolve r.path
  match r with
  | lines _ _ _ =>
    if !Files.pathExists tree w.base path then
      .error (.tool ("'" ++ path ++ "' does not exist"))
    else if !Files.isFileAt tree w.base path then
      .error (.tool ("'" ++ path ++ "' is not a file"))
    else .ok ()
  | directory _ _ =>
    if !Files.isDirAt tree w.base path then
      .error (.tool ("'" ++ path ++ "' is not a directory"))
    else .ok ()

/-! ### Lines -/

/-- What is wrong with a range of lines. -/
inductive RangeFault
  | startOutside (first : Int) (count : Nat)
  | backwards (first last : Int)
deriving DecidableEq, Repr

/-- What is wrong, in words. -/
def RangeFault.message : RangeFault → String
  | startOutside first count =>
    String.join ["starting index: ", toString first, " is outside of the allowed range: (",
      toString (-(count : Int)), ", ", toString count, ")"]
  | backwards first last =>
    String.join ["start line ", toString first, " is after end line ", toString last]

/-- The place of a line in the list of `count` lines: numbers above zero count from the start,
others from the end. -/
def lineIndex (number : Int) (count : Nat) : Nat :=
  if number ≤ 0 then ((count : Int) + number).toNat else (number - 1).toNat

/-- The lines from `first` to `last`. -/
def selectLines (lines : List (List Char)) (first last : Int) :
    Except RangeFault (List (List Char)) :=
  let count := lines.length
  let start := lineIndex first count
  let stop := lineIndex last count
  if count = 0 then .ok []
  else if count ≤ start then .error (.startOutside first count)
  else if stop < start then .error (.backwards first last)
  else .ok ((lines.drop start).take (min stop (count - 1) + 1 - start))

/-- The lines of a text from `first` to `last`, as a text. -/
def readLines (text : String) (first last : Int) : Except RangeFault String :=
  (selectLines (Text.linesOf text.toList) first last).map fun ls =>
    String.ofList (['\n'].intercalate ls)

/-! ### Directories -/

/-- A directory to be listed, and the path by which it is shown. -/
structure Folder where
  path : String
  entries : List (String × Entry)

namespace Folder

/-- One entry: marked with `d` if it is a directory, and with a dash if not. -/
def lineOf (folder : Folder) (e : String × Entry) : String :=
  (if e.2.isDir then "d " else "- ") ++ Path.join folder.path e.1

/-- The entries in order of their lines. -/
def lines (folder : Folder) : List String :=
  (folder.entries.map folder.lineOf).mergeSort (fun a b => decide (a ≤ b))

/-- The paths of the directories in a directory. -/
def subfolders (folder : Folder) : List String :=
  (folder.entries.filter (·.2.isDir)).map fun e => Path.join folder.path e.1

end Folder

/-- Opens the directory at a path. -/
def openFolder (tree : Entry) (cwd : Location) (path : String) : Except FileError Folder :=
  (Files.listDir tree cwd path).map (Folder.mk path)

/-- The lines of the folders of one level, given by their paths, and of those below them down to
`depth` more levels. The first folder that cannot be opened ends the listing. -/
def listing (tree : Entry) (cwd : Location) :
    (depth : Nat) → (level : List String) → Except FileError (List String)
  | 0, level => do
    let folders ← level.mapM (openFolder tree cwd)
    return folders.flatMap Folder.lines
  | depth + 1, level => do
    let folders ← level.mapM (openFolder tree cwd)
    let next := folders.flatMap Folder.subfolders
    let below ← if next.isEmpty then pure [] else listing tree cwd depth next
    return folders.flatMap Folder.lines ++ below

/-! ### The call -/

/-- Reads. -/
def run (w : Workplace) (tree : Entry) (r : FileRead) : Except Error Output :=
  let path := w.resolve r.path
  match r with
  | lines _ first last =>
    match Files.readText tree w.base path with
    | .error e => .error (.io e.message)
    | .ok text =>
      match readLines text (firstLine first) (lastLine last) with
      | .error fault => .error (.tool fault.message)
      | .ok text => .ok (.text text)
  | directory _ depth =>
    match listing tree w.base (depthOf depth) [path] with
    | .error e => .error (.io e.message)
    | .ok ls => .ok (.text (String.intercalate "\n" ls))

end FileRead

end ToolAgent
