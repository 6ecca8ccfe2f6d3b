import ToolAgent.Shell.Pattern
import ToolAgent.Shell.Program.Basic

/-!
# Programs that work on the file tree
-/

namespace ToolAgent.Shell.Program

/-- The names of a directory as they are listed. -/
def visibleNames (o : Options) (children : List (String × Entry)) : List String :=
  let names := children.map (·.1)
  if o.has 'a' then "." :: ".." :: names
  else if o.has 'A' then names
  else names.filter fun n => !Text.startsWith n "."

/-- A name with the mark of its kind. -/
def marked (o : Options) (name : String) (e : Option Entry) : String :=
  match e with
  | some (.dir _) => if o.has 'F' || o.has 'p' then name ++ "/" else name
  | some (.link _) => if o.has 'F' then name ++ "@" else name
  | _ => name

/-- Lists directories and names files. -/
def ls : Program := fun c =>
  let o := Options.of "" c.args
  let operands := (if o.operands.isEmpty then ["."] else o.operands).mergeSort
    (fun a b => decide (a ≤ b))
  let look (name : String) : Except FileError Entry := (Files.find c.tree c.here name).map (·.2)
  let missing := operands.filterMap fun name =>
    match look name with
    | .ok _ => none
    | .error err => some ("ls: cannot access '" ++ name ++ "': " ++ err.reason)
  let files := operands.filter fun name =>
    match look name with
    | .ok (.dir _) => o.has 'd'
    | .ok _ => true
    | .error _ => false
  let dirs := if o.has 'd' then [] else operands.filterMap fun name =>
    match look name with
    | .ok (.dir cs) => some (name, cs)
    | _ => none
  let order (ns : List String) : List String := if o.has 'r' then ns.reverse else ns
  let listing (cs : List (String × Entry)) : String :=
    String.join ((order (visibleNames o cs)).map fun n => marked o n (Entries.find? n cs) ++ "\n")
  let titled := 1 < operands.length || o.has 'R'
  let rec sections (fuel : Nat) (name : String) (cs : List (String × Entry)) : List String :=
    let own := (if titled then name ++ ":\n" else "") ++ listing cs
    match fuel with
    | 0 => [own]
    | fuel + 1 =>
      if o.has 'R' then
        own :: cs.flatMap fun (n, e) =>
          match e with
          | .dir sub => if Text.startsWith n "." && !o.has 'a' && !o.has 'A' then []
                        else sections fuel (Path.join name n) sub
          | _ => []
      else [own]
  let blocks := (if files.isEmpty then [] else [String.join (files.map (· ++ "\n"))])
    ++ dirs.flatMap fun (name, cs) => sections 100 name cs
  let complaints : List (Nat × Bytes) := missing.map fun m => (2, Utf8.ofString (m ++ "\n"))
  ⟨complaints ++ [(1, Utf8.ofString (String.intercalate "\n" blocks))],
    if missing.isEmpty then 0 else 2, c.tree, false⟩

/-- Does `f` for each operand in turn. -/
def eachOperand (c : Call) (operands : List String) (f : Entry → String → Except String Entry) :
    Effect :=
  operands.foldl (fun e name =>
    match f e.tree name with
    | .ok tree => { e with tree := tree }
    | .error text =>
      { e with output := e.output ++ [(2, Utf8.ofString (text ++ "\n"))], status := 1 })
    (Effect.exit c 0)

/-- The complaint about missing operands. -/
def missingOperand (c : Call) (program : String) : Effect :=
  .complain c 1 (program ++ ": missing operand\nTry '" ++ program
    ++ " --help' for more information.")

/-- Makes directories. -/
def mkdir : Program := fun c =>
  let o := Options.of "m" c.args
  if o.operands.isEmpty then missingOperand c "mkdir"
  else eachOperand c o.operands fun tree name =>
    let outcome :=
      if o.has 'p' then
        match Files.makeDirs tree c.here name with
        | (.ok (), tree) => .ok tree
        | (.error e, _) => .error e
      else Files.makeDir tree c.here name
    outcome.mapError fun e => "mkdir: cannot create directory '" ++ name ++ "': " ++ e.reason

/-- Removes directories that are empty. -/
def rmdir : Program := fun c =>
  let o := Options.of "" c.args
  if o.operands.isEmpty then missingOperand c "rmdir"
  else eachOperand c o.operands fun tree name =>
    let fail (e : FileError) : Except String Entry :=
      .error ("rmdir: failed to remove '" ++ name ++ "': " ++ e.reason)
    match Files.walk tree c.here false name with
    | .ok (.found l (.dir [])) => .ok (tree.remove l)
    | .ok (.found _ (.dir _)) => fail .notEmpty
    | .ok (.found _ _) => fail .notDirectory
    | .ok (.vacant _) => fail .notFound
    | .error e => fail e

/-- Removes files, and directories with all that is in them. -/
def rm : Program := fun c =>
  let o := Options.of "" c.args
  if o.operands.isEmpty then (if o.has 'f' then .exit c 0 else missingOperand c "rm")
  else eachOperand c o.operands fun tree name =>
    let fail (e : FileError) : Except String Entry :=
      if o.has 'f' && e = .notFound then .ok tree
      else .error ("rm: cannot remove '" ++ name ++ "': " ++ e.reason)
    match Files.walk tree c.here false name with
    | .ok (.found l (.dir cs)) =>
      if o.has 'r' || o.has 'R' || (o.has 'd' && cs.isEmpty) then .ok (tree.remove l)
      else fail .isDirectory
    | .ok (.found l _) => .ok (tree.remove l)
    | .ok (.vacant _) => fail .notFound
    | .error e => fail e

/-- Makes files that are not there. -/
def touch : Program := fun c =>
  let o := Options.of "dtr" c.args
  if o.operands.isEmpty then
    .complain c 1 "touch: missing file operand\nTry 'touch --help' for more information."
  else eachOperand c o.operands fun tree name =>
    match Files.find tree c.here name with
    | .ok _ => .ok tree
    | .error _ =>
      if o.has 'c' then .ok tree
      else match Files.writeBytes tree c.here name [] with
        | .ok tree => .ok tree
        | .error e => .error ("touch: cannot touch '" ++ name ++ "': " ++ e.reason)

/-- Where something named `source` goes when it goes to `target`. -/
def destination (tree : Entry) (here : Location) (source target : String) : String :=
  if Files.isDirAt tree here target then
    Path.join target ((Path.trimEnd (Path.pieces source)).getLast?.getD "")
  else target

/-- Copies files and directories. -/
def cp : Program := fun c =>
  let o := Options.of "" c.args
  match o.operands.reverse with
  | target :: sources@(_ :: _) =>
    eachOperand c sources.reverse fun tree source =>
      let dest := destination tree c.here source target
      match Files.find tree c.here source with
      | .error e => .error ("cp: cannot stat '" ++ source ++ "': " ++ e.reason)
      | .ok (_, .dir cs) =>
        if o.has 'r' || o.has 'R' || o.has 'a' then
          match Files.walk tree c.here true dest with
          | .ok (.vacant l) | .ok (.found l _) => .ok (tree.put l (.dir cs))
          | .error e => .error ("cp: cannot create directory '" ++ dest ++ "': " ++ e.reason)
        else .error ("cp: -r not specified; omitting directory '" ++ source ++ "'")
      | .ok (_, .file bs) =>
        (Files.writeBytes tree c.here dest bs).mapError fun e =>
          "cp: cannot create regular file '" ++ dest ++ "': " ++ e.reason
      | .ok (_, .link _) => .ok tree
  | _ => missingOperand c "cp"

/-- Gives files and directories another name. -/
def mv : Program := fun c =>
  let o := Options.of "" c.args
  match o.operands.reverse with
  | target :: sources@(_ :: _) =>
    eachOperand c sources.reverse fun tree source =>
      let dest := destination tree c.here source target
      match Files.walk tree c.here false source with
      | .ok (.found l e) =>
        match Files.walk tree c.here false dest with
        | .ok (.vacant m) | .ok (.found m _) => if l = m then .ok tree
          else .ok ((tree.remove l).put m e)
        | .error err => .error
          ("mv: cannot move '" ++ source ++ "' to '" ++ dest ++ "': " ++ err.reason)
      | .ok (.vacant _) => .error
        ("mv: cannot stat '" ++ source ++ "': " ++ FileError.notFound.reason)
      | .error e => .error ("mv: cannot stat '" ++ source ++ "': " ++ e.reason)
  | _ => missingOperand c "mv"

/-- Makes links. -/
def ln : Program := fun c =>
  let o := Options.of "" c.args
  match o.operands with
  | [source, target] =>
    eachOperand c [target] fun tree target =>
      let dest := destination tree c.here source target
      match Files.walk tree c.here false dest with
      | .ok (.vacant l) =>
        if o.has 's' then .ok (tree.put l (.link source))
        else match Files.find tree c.here source with
          | .ok (_, e) => .ok (tree.put l e)
          | .error e => .error ("ln: failed to access '" ++ source ++ "': " ++ e.reason)
      | .ok (.found l _) =>
        if o.has 'f' then .ok (tree.put l (.link source))
        else .error ("ln: failed to create symbolic link '" ++ dest ++ "': File exists")
      | .error e => .error ("ln: failed to create symbolic link '" ++ dest ++ "': " ++ e.reason)
  | _ => missingOperand c "ln"

/-! ### Finding -/

/-- What `find` asks of an entry. -/
structure Search where
  name : Option String
  kind : Option Char
  maxDepth : Nat
  minDepth : Nat
  delete : Bool

/-- The starting points and the conditions of a search. -/
def Search.parse : (fuel : Nat) → List String → (Search → Search) → List String × Search
  | 0, _, f => ([], f ⟨none, none, 1000000, 0, false⟩)
  | _ + 1, [], f => ([], f ⟨none, none, 1000000, 0, false⟩)
  | fuel + 1, arg :: rest, f =>
    match arg, rest with
    | "-name", p :: rest => parse fuel rest fun s => { f s with name := some p }
    | "-type", t :: rest => parse fuel rest fun s => { f s with kind := t.toList.head? }
    | "-maxdepth", d :: rest => parse fuel rest fun s => { f s with maxDepth := d.toNat?.getD 0 }
    | "-mindepth", d :: rest => parse fuel rest fun s => { f s with minDepth := d.toNat?.getD 0 }
    | "-delete", rest => parse fuel rest fun s => { f s with delete := true }
    | "-print", rest => parse fuel rest f
    | p, rest =>
      let (ps, s) := parse fuel rest f
      (p :: ps, s)

/-- The letter for what an entry is. -/
def kindOf : Entry → Char
  | .file _ => 'f'
  | .dir _ => 'd'
  | .link _ => 'l'

/-- Whether an entry is searched for. -/
def Search.accepts (s : Search) (depth : Nat) (path : String) (e : Entry) : Bool :=
  let last := (Path.trimEnd (Path.pieces path)).getLast?.getD path
  s.minDepth ≤ depth
    && (match s.kind with
      | some k => kindOf e == k
      | none => true)
    && (match s.name with
      | some p => Glob.matchesText (p.toList.map fun ch => (ch, false)) last
      | none => true)

/-- The paths that are searched for, from an entry on downwards; `fuel` bounds the depth. -/
def Search.under (s : Search) : (fuel : Nat) → (depth : Nat) → String → Entry → List String
  | 0, _, _, _ => []
  | fuel + 1, depth, path, e =>
    (if s.accepts depth path e then [path] else [])
      ++ (if depth < s.maxDepth then
        e.children.flatMap fun (n, child) => under s fuel (depth + 1) (Path.join path n) child
      else [])

/-- Searches directories. -/
def find : Program := fun c =>
  let (paths, s) := Search.parse (c.args.length + 1) c.args id
  let paths := if paths.isEmpty then ["."] else paths
  paths.foldl (fun e path =>
    match Files.walk e.tree c.here false path with
    | .ok (.found _ entry) =>
      let found := s.under 1000 0 path entry
      if s.delete then
        { e with tree := found.reverse.foldl (fun tree p =>
            match Files.walk tree c.here false p with
            | .ok (.found l _) => tree.remove l
            | _ => tree) e.tree }
      else e.andThen { Effect.text c (String.join (found.map (· ++ "\n"))) with tree := e.tree }
    | .ok (.vacant _) =>
      e.andThen { Effect.complain c 1 ("find: '" ++ path ++ "': No such file or directory") with
        tree := e.tree }
    | .error err =>
      e.andThen { Effect.complain c 1 ("find: '" ++ path ++ "': " ++ err.reason) with
        tree := e.tree })
    (Effect.exit c 0)

end ToolAgent.Shell.Program
