import ToolAgent.Files.Path
import ToolAgent.Files.Tree

/-!
# From a path to an entry

`walk` follows a path through the tree, symbolic links included, and arrives at a location: one with
an entry, or one in an existing directory with nothing there yet.
-/

namespace ToolAgent

/-- What the file tree refuses. -/
inductive FileError
  | notFound
  | exists
  | notDirectory
  | isDirectory
  | notEmpty
  | nameTooLong
  | linkLoop
  | zeroByte
  | notText
  | invalidArgument
deriving DecidableEq, Repr

namespace FileError

/-- The number of the error, if it has one. -/
def number : FileError → Option Nat
  | notFound => some 2
  | «exists» => some 17
  | notDirectory => some 20
  | isDirectory => some 21
  | notEmpty => some 39
  | nameTooLong => some 36
  | linkLoop => some 40
  | invalidArgument => some 22
  | zeroByte | notText => none

/-- The words for an error. -/
def reason : FileError → String
  | notFound => "No such file or directory"
  | «exists» => "File exists"
  | notDirectory => "Not a directory"
  | isDirectory => "Is a directory"
  | notEmpty => "Directory not empty"
  | nameTooLong => "File name too long"
  | linkLoop => "Too many levels of symbolic links"
  | invalidArgument => "Invalid argument"
  | zeroByte => "file name contained an unexpected NUL byte"
  | notText => "stream did not contain valid UTF-8"

/-- The words with the number. -/
def message (e : FileError) : String :=
  match e.number with
  | some n => e.reason ++ " (os error " ++ toString n ++ ")"
  | none => e.reason

end FileError

/-- Where a path leads. -/
inductive Place
  /-- To an entry. -/
  | found (location : Location) (entry : Entry)
  /-- To a name in an existing directory under which there is nothing. -/
  | vacant (location : Location)

namespace Files

/-- How long a name may be, in bytes. -/
def maxName : Nat := 255

/-- How long a path may be, in bytes. -/
def maxPath : Nat := 4096

/-- How many symbolic links a path may follow. -/
def maxLinks : Nat := 40

/-- The names of a path in turn; a slash or a dot at its end asks for a directory. -/
def steps (path : String) : List String :=
  let ps := Path.pieces path
  let names := ps.filter (!Path.isEmptyPiece ·)
  match ps.getLast? with
  | some last => if Path.isEmptyPiece last && ps ≠ [""] then names ++ ["."] else names
  | none => names

/-- Follows the steps from the directory at `here`. The last step is followed through a link if
`follow` asks for it. -/
def walkFrom (root : Entry) (follow : Bool) (links : Nat) (here : Location) (todo : List String) :
    Except FileError Place :=
  match todo with
  | [] =>
    match root.get? here with
    | some e => .ok (.found here e)
    | none => .error .notFound
  | name :: rest =>
    match root.get? here with
    | some (.dir children) =>
      if name = "." then walkFrom root follow links here rest
      else if name = ".." then walkFrom root follow links here.dropLast rest
      else if maxName < Utf8.sizeOf name then .error .nameTooLong
      else match Entries.find? name children with
        | none => if rest = [] then .ok (.vacant (here ++ [name])) else .error .notFound
        | some (.link target) =>
          if rest = [] && !follow then .ok (.found (here ++ [name]) (.link target))
          else match links with
            | 0 => .error .linkLoop
            | links + 1 =>
              if target = "" then .error .notFound
              else
                walkFrom root follow links (if Path.isAbsolute target then [] else here)
                  (steps target ++ rest)
        | some _ => walkFrom root follow links (here ++ [name]) rest
    | some _ => .error .notDirectory
    | none => .error .notFound
termination_by (links, todo.length)

/-- Where a path leads for something that works in the directory at `cwd`. -/
def walk (root : Entry) (cwd : Location) (follow : Bool) (path : String) : Except FileError Place :=
  if path.toList.contains '\x00' then .error .zeroByte
  else if path = "" then .error .notFound
  else if maxPath ≤ Utf8.sizeOf path then .error .nameTooLong
  else
    walkFrom root follow maxLinks (if Path.isAbsolute path then [] else cwd) (steps path)

/-- The entry that a path leads to. -/
def find (root : Entry) (cwd : Location) (path : String) : Except FileError (Location × Entry) :=
  match walk root cwd true path with
  | .ok (.found location entry) => .ok (location, entry)
  | .ok (.vacant _) => .error .notFound
  | .error e => .error e

/-- Whether a path leads to something. -/
def pathExists (root : Entry) (cwd : Location) (path : String) : Bool :=
  (find root cwd path).toOption.isSome

/-- Whether a path leads to a directory. -/
def isDirAt (root : Entry) (cwd : Location) (path : String) : Bool :=
  match find root cwd path with
  | .ok (_, e) => e.isDir
  | .error _ => false

/-- Whether a path leads to a file. -/
def isFileAt (root : Entry) (cwd : Location) (path : String) : Bool :=
  match find root cwd path with
  | .ok (_, e) => e.isFile
  | .error _ => false

end Files

end ToolAgent
