import ToolAgent.Table
import ToolAgent.Text.Utf8

/-!
# The file tree

A tree of directories, files and symbolic links. A *location* is the list of names that lead from
the root to an entry. `get?` looks at a location and `put` and `remove` change one; a location
whose parent is not a directory cannot be changed.
-/

namespace ToolAgent

/-- What stands at a place of the file tree. -/
inductive Entry
  | file (content : Bytes)
  /-- A directory: its entries by name, in increasing order. -/
  | dir (children : List (String × Entry))
  /-- A symbolic link. -/
  | link (target : String)
deriving Repr, Inhabited

/-- The names that lead from the root to an entry. -/
abbrev Location := List String

namespace Entry

/-- Whether an entry is a directory. -/
def isDir : Entry → Bool
  | dir _ => true
  | _ => false

/-- Whether an entry is a file. -/
def isFile : Entry → Bool
  | file _ => true
  | _ => false

/-- The entries of a directory. -/
def children : Entry → List (String × Entry)
  | dir cs => cs
  | _ => []

/-- The entry at a location. -/
def get? : Location → Entry → Option Entry
  | [], e => some e
  | name :: rest, e => (Entries.find? name e.children).bind (get? rest)

/-- The directory with `child` under `name`. -/
def withChild (e : Entry) (name : String) (child : Entry) : Entry :=
  match e with
  | dir cs => dir (Entries.put name child cs)
  | e => e

/-- The directory without `name`. -/
def withoutChild (e : Entry) (name : String) : Entry :=
  match e with
  | dir cs => dir (cs.filter (·.1 ≠ name))
  | e => e

/-- The tree with `new` at a location. -/
def put : (tree : Entry) → Location → (new : Entry) → Entry
  | _, [], new => new
  | e, [name], new => e.withChild name new
  | e, name :: rest, new =>
    match Entries.find? name e.children with
    | some child => e.withChild name (put child rest new)
    | none => e

/-- The tree without the entry at a location. -/
def remove : Location → Entry → Entry
  | [], e => e
  | [name], e => e.withoutChild name
  | name :: rest, e =>
    match Entries.find? name e.children with
    | some child => e.withChild name (remove rest child)
    | none => e

end Entry

end ToolAgent
