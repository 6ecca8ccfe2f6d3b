import ToolAgent.Text.Basic

/-!
# Paths as text

A path is a text of pieces between slashes. Empty pieces and single dots mean nothing, except that
a slash at the start makes the path absolute and that a dot at the very start of a relative path
counts as a component. The functions here never look at the file tree.
-/

namespace ToolAgent.Path

/-- The pieces between slashes, as they stand. -/
def pieces (path : String) : List String :=
  (path.toList.splitOn '/').map String.ofList

/-- The path that has these pieces between its slashes. -/
def ofPieces (ps : List String) : String := String.intercalate "/" ps

/-- Whether a path starts at the root. -/
def isAbsolute (path : String) : Bool := Text.startsWith path "/"

/-- A piece that means nothing inside a path. -/
def isEmptyPiece (piece : String) : Bool := piece == "" || piece == "."

/-- What a path consists of. -/
inductive Component
  | root
  | current
  | name (s : String)
deriving DecidableEq, Repr

/-- The components of the pieces after the start of a path. -/
def bodyComponents (ps : List String) : List Component :=
  (ps.filter (!isEmptyPiece ·)).map .name

/-- The components of a path in turn: the root if it starts there, and the names. A dot counts only
at the start of a path. -/
def components (path : String) : List Component :=
  match pieces path with
  | [] => []
  | first :: rest =>
    if isAbsolute path then .root :: bodyComponents rest
    else if first = "." then .current :: bodyComponents rest
    else bodyComponents (first :: rest)

/-- The pieces without the meaningless ones at the end. -/
def trimEnd (ps : List String) : List String := (ps.reverse.dropWhile isEmptyPiece).reverse

/-- The pieces after the first `n` components of these pieces. -/
def dropNames : Nat → List String → List String
  | 0, ps => ps
  | _ + 1, [] => []
  | n + 1, p :: ps => if isEmptyPiece p then dropNames (n + 1) ps else dropNames n ps

/-- A path without the meaningless pieces at its end. -/
def tidy (path : String) : String :=
  let ps := trimEnd (pieces path)
  if isAbsolute path && ps = [] then "/" else ofPieces ps

/-- The path below `base`, if it is at or below `base`. -/
def below? (base path : String) : Option String :=
  let b := components base
  if !b.isPrefixOf (components path) then none
  else match b with
    | [] => some (tidy path)
    | .root :: names | .current :: names =>
      some (ofPieces (trimEnd
        ((dropNames names.length ((pieces path).drop 1)).dropWhile isEmptyPiece)))
    | names =>
      some (ofPieces (trimEnd ((dropNames names.length (pieces path)).dropWhile isEmptyPiece)))

/-- The path without its last component. -/
def parent? (path : String) : Option String :=
  match components path with
  | [] | [.root] => none
  | cs =>
    let rest :=
      if cs = [.current] then []
      else
        let shorter := trimEnd (trimEnd (pieces path)).dropLast
        if shorter = [] && (cs.head? = some .current) then ["."] else shorter
    if isAbsolute path && (rest = [] || rest = [""]) then some "/" else some (ofPieces rest)

/-- The path `path`, seen from `base`. -/
@[irreducible]
def join (base path : String) : String :=
  if isAbsolute path || base = "" then path
  else if Text.endsWith base "/" then base ++ path
  else base ++ "/" ++ path

/-- The path with a tilde at the start, alone or before a slash, replaced by the home directory. -/
@[irreducible]
def expandHome (home path : String) : String :=
  match path.toList with
  | '~' :: rest => if rest = [] || rest.head? = some '/' then home ++ String.ofList rest else path
  | _ => path

/-- The path that a text means to something that works in `cwd`. -/
def resolve (home cwd path : String) : String := join cwd (expandHome home path)

/-- The path as it is shown to somebody in `cwd`. -/
def display (cwd path : String) : String := (below? cwd path).getD path

end ToolAgent.Path
