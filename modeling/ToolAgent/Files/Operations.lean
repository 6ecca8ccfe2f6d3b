import ToolAgent.Files.Lookup

/-!
# Reading and changing files

The operations that tools and commands use. One that changes the tree returns the new tree, or an
error and no tree; only making several directories returns an error and the tree as far as it came.
-/

namespace ToolAgent.Files

/-- The bytes of a file. -/
def readBytes (root : Entry) (cwd : Location) (path : String) : Except FileError Bytes :=
  match find root cwd path with
  | .ok (_, .file content) => .ok content
  | .ok (_, .dir _) => .error .isDirectory
  | .ok (_, .link _) => .error .linkLoop
  | .error e => .error e

/-- The text of a file. -/
def readText (root : Entry) (cwd : Location) (path : String) : Except FileError String :=
  match readBytes root cwd path with
  | .ok bytes =>
    match Utf8.toString? bytes with
    | some text => .ok text
    | none => .error .notText
  | .error e => .error e

/-- Makes a file what `content` says, new or not. -/
def writeBytes (root : Entry) (cwd : Location) (path : String) (content : Bytes) :
    Except FileError Entry :=
  let last := (steps path).getLast?
  match walk root cwd true path with
  | .ok (.found location (.file _)) => .ok (root.put location (.file content))
  | .ok (.found _ (.dir _)) => .error .isDirectory
  | .ok (.found _ (.link _)) => .error .linkLoop
  | .ok (.vacant location) => .ok (root.put location (.file content))
  | .error e =>
    -- a slash after a name that could be created asks for a directory
    if last = some "." && Text.endsWith path "/" then
      match walk root cwd true (String.ofList (Text.dropWhileEnd (· == '/') path.toList)) with
      | .ok _ => .error .isDirectory
      | .error e => .error e
    else .error e

/-- A path without the slashes at its end; the root directory stays. -/
@[irreducible]
def bare (path : String) : String :=
  let bare := String.ofList (Text.dropWhileEnd (· == '/') path.toList)
  if bare = "" && path ≠ "" then "/" else bare

/-- Makes one directory. -/
def makeDir (root : Entry) (cwd : Location) (path : String) : Except FileError Entry :=
  match walk root cwd false (bare path) with
  | .ok (.found _ _) => .error .exists
  | .ok (.vacant location) => .ok (root.put location (.dir []))
  | .error e => .error e

/-- How many parents a path has. -/
def ancestors (path : String) : Nat := (Path.components path).length

/-- Makes a directory and those above it that are missing; `depth` bounds how many. Those that
could be made stay. -/
def makeDirsFrom (depth : Nat) (root : Entry) (cwd : Location) (path : String) :
    Except FileError Unit × Entry :=
  if path = "" then (.ok (), root)
  else match makeDir root cwd path with
    | .ok root => (.ok (), root)
    | .error .notFound =>
      match depth, Path.parent? path with
      | depth + 1, some parent =>
        match makeDirsFrom depth root cwd parent with
        | (.error e, root) => (.error e, root)
        | (.ok (), root) =>
          match makeDir root cwd path with
          | .ok root => (.ok (), root)
          | .error e => (if isDirAt root cwd path then .ok () else .error e, root)
      | _, _ => (.error .notFound, root)
    | .error e => (if isDirAt root cwd path then .ok () else .error e, root)

/-- Makes a directory and those above it that are missing. -/
def makeDirs (root : Entry) (cwd : Location) (path : String) : Except FileError Unit × Entry :=
  makeDirsFrom (ancestors path) root cwd path

/-- The entries of a directory, by name. -/
def listDir (root : Entry) (cwd : Location) (path : String) :
    Except FileError (List (String × Entry)) :=
  match find root cwd path with
  | .ok (_, .dir children) => .ok children
  | .ok _ => .error .notDirectory
  | .error e => .error e

end ToolAgent.Files
