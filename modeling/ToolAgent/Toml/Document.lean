import ToolAgent.Toml.Token

/-!
# TOML documents

A document is a list of lines: settings of keys, and headers that name the table for the settings
after them. A table may be named by one header only, or be made by the dotted keys of one table, or
come about on the way to a table further in; what was made in one way is not extended in another.
-/

namespace ToolAgent.Toml

/-! ### The table in the making -/

/-- How a table came about. -/
inductive Origin
  /-- By a header, or as the document itself. -/
  | header
  /-- On the way to a header further in. -/
  | passage
  /-- By a dotted key. -/
  | dotted
deriving DecidableEq, Repr

/-- What a key stands for while a document is read. -/
inductive Item
  /-- A value that cannot be extended. -/
  | value (v : Value)
  | table (origin : Origin) (members : List (String × Item))
  /-- Tables under one header in double brackets, the last first. -/
  | tables (elements : List (List (String × Item)))
deriving Inhabited

/-- The members of a table. -/
abbrev Members := List (String × Item)

/-- What a key of the table stands for. -/
def find? (key : String) (ms : Members) : Option Item := (ms.find? (·.1 = key)).map (·.2)

/-- The members with one set. -/
def set (key : String) (item : Item) : Members → Members
  | [] => [(key, item)]
  | (k, old) :: rest => if k = key then (key, item) :: rest else (k, old) :: set key item rest

/-- Sets a key of the table that a dotted key leads to, from a table that came about by `origin`. -/
def insertAt (origin : Origin) (key : String) (v : Value) :
    (path : List String) → Members → Option Members
  | [], ms =>
    -- a table on the way to another is not filled by dotted keys
    if origin = .passage || (find? key ms).isSome then none else some (set key (.value v) ms)
  | name :: path, ms =>
    match find? name ms with
    | none => (insertAt .dotted key v path []).map fun inner => set name (.table .dotted inner) ms
    | some (.table .dotted inner) =>
      (insertAt .dotted key v path inner).map fun inner => set name (.table .dotted inner) ms
    | some (.table .passage inner) =>
      match path with
      | [] => none
      | _ => (insertAt .passage key v path inner).map fun inner =>
        set name (.table .passage inner) ms
    | some (.tables (last :: before)) =>
      match path with
      | [] => none
      | _ => (insertAt .passage key v path last).map fun inner =>
        set name (.tables (inner :: before)) ms
    | some _ => none

/-- Does `f` to the table at a path of headers, making the tables on the way. -/
def within (f : Origin → Members → Option (Origin × Members)) :
    (path : List String) → Origin → Members → Option (Origin × Members)
  | [], origin, ms => f origin ms
  | name :: path, origin, ms =>
    match find? name ms with
    | none => (within f path .passage []).map fun (o, inner) =>
      (origin, set name (.table o inner) ms)
    | some (.table o inner) =>
      (within f path o inner).map fun (o, inner) => (origin, set name (.table o inner) ms)
    | some (.tables (last :: before)) =>
      (within f path .header last).map fun (_, inner) =>
        (origin, set name (.tables (inner :: before)) ms)
    | some _ => none

/-- Opens the table that a header names. -/
def openTable (name : String) (origin : Origin) (ms : Members) : Option (Origin × Members) :=
  match find? name ms with
  | none => some (origin, set name (.table .header []) ms)
  | some (.table .passage inner) => some (origin, set name (.table .header inner) ms)
  | some _ => none

/-- Opens another of the tables that a header in double brackets names. -/
def openElement (name : String) (origin : Origin) (ms : Members) : Option (Origin × Members) :=
  match find? name ms with
  | none => some (origin, set name (.tables [[]]) ms)
  | some (.tables elements) => some (origin, set name (.tables ([] :: elements)) ms)
  | some _ => none

mutual

/-- The value of an item. -/
def Item.toValue : Item → Value
  | .value v => v
  | .table _ ms => .table (membersValue ms)
  | .tables elements => .list (elementsValue elements).reverse

/-- The values of the members of a finished table. -/
def membersValue : List (String × Item) → List (String × Value)
  | [] => []
  | (k, i) :: rest => (k, i.toValue) :: membersValue rest

/-- The values of finished tables. -/
def elementsValue : List (List (String × Item)) → List Value
  | [] => []
  | ms :: rest => .table (membersValue ms) :: elementsValue rest

end

/-! ### Values -/

mutual

/-- A value; `depth` is how deep brackets may still go. -/
def valueAt (fuel depth : Nat) (cs : List Char) : Option (Value × List Char) :=
  match fuel with
  | 0 => none
  | fuel + 1 =>
    match cs with
    | '"' :: _ | '\'' :: _ => (stringToken cs).map fun (s, cs) => (.string (String.ofList s), cs)
    | '[' :: rest =>
      match depth with
      | 0 => none
      | depth + 1 => (itemsAt fuel depth rest).map fun (vs, cs) => (.list vs, cs)
    | '\x7b' :: rest =>
      match depth with
      | 0 => none
      | depth + 1 =>
        match skipBlanks rest with
        | '\x7d' :: rest => some (.table [], rest)
        | rest =>
          (pairsAt fuel depth [] rest).map fun (ms, cs) =>
            ((Item.table .header ms).toValue, cs)
    | 't' :: 'r' :: 'u' :: 'e' :: rest => some (.bool true, rest)
    | 'f' :: 'a' :: 'l' :: 's' :: 'e' :: rest => some (.bool false, rest)
    | cs =>
      match momentToken cs with
      | some (text, cs) => some (.moment text, cs)
      | none =>
        match floatToken cs with
        | some (x, cs) => some (.float x, cs)
        | none => (integerToken cs).map fun (n, cs) => (.integer n, cs)

/-- The items of a list and the bracket that closes it. -/
def itemsAt (fuel depth : Nat) (cs : List Char) : Option (List Value × List Char) :=
  match fuel with
  | 0 => none
  | fuel + 1 =>
    match skipLines (cs.length + 1) cs with
    | ']' :: rest => some ([], rest)
    | cs =>
      match valueAt fuel depth cs with
      | none => none
      | some (v, rest) =>
        match skipLines (rest.length + 1) rest with
        | ',' :: rest => (itemsAt fuel depth rest).map fun (vs, cs) => (v :: vs, cs)
        | ']' :: rest => some ([v], rest)
        | _ => none

/-- The settings of a table in braces and the brace that closes it. -/
def pairsAt (fuel depth : Nat) (ms : Members) (cs : List Char) : Option (Members × List Char) :=
  match fuel with
  | 0 => none
  | fuel + 1 =>
    match settingAt fuel depth cs with
    | none => none
    | some ((path, key, v), rest) =>
      match insertAt .header key v path ms, skipBlanks rest with
      | some ms, ',' :: rest => pairsAt fuel depth ms rest
      | some ms, '\x7d' :: rest => some (ms, rest)
      | _, _ => none

/-- A key, an equals sign and a value. -/
def settingAt (fuel depth : Nat) (cs : List Char) :
    Option ((List String × String × Value) × List Char) :=
  match fuel with
  | 0 => none
  | fuel + 1 =>
    match keyToken cs with
    | none => none
    | some (keys, rest) =>
      match skipBlanks rest, keys.getLast? with
      | '=' :: rest, some key =>
        (valueAt fuel depth (skipBlanks rest)).map fun (v, cs) => ((keys.dropLast, key, v), cs)
      | _, _ => none

end

/-! ### Lines -/

/-- The document so far, and the path of the table that settings go to. -/
structure Draft where
  root : Members
  here : List String

/-- Adds a setting. -/
def Draft.add (d : Draft) (path : List String) (key : String) (v : Value) : Option Draft :=
  let insert (origin : Origin) (ms : Members) : Option (Origin × Members) :=
    (insertAt .header key v path ms).map fun ms => (origin, ms)
  (within insert d.here .header d.root).map fun (_, root) => { d with root := root }

/-- Opens the table of a header. -/
def Draft.goTo (d : Draft) (element : Bool) (keys : List String) : Option Draft :=
  match keys.getLast? with
  | none => none
  | some name =>
    (within (if element then openElement name else openTable name) keys.dropLast .header d.root).map
      fun (_, root) => ⟨root, keys⟩

/-- A header, after its first bracket. -/
def headerLine (d : Draft) (cs : List Char) : Option (Draft × List Char) :=
  let (element, cs) := match cs with
    | '[' :: rest => (true, rest)
    | cs => (false, cs)
  match keyToken cs with
  | none => none
  | some (keys, rest) =>
    let close : Option (List Char) :=
      match element, skipBlanks rest with
      | true, ']' :: ']' :: rest => some rest
      | false, ']' :: rest => some rest
      | _, _ => none
    match close.bind endLine, d.goTo element keys with
    | some rest, some d => some (d, rest)
    | _, _ => none

/-- A setting on a line. -/
def settingLine (d : Draft) (cs : List Char) : Option (Draft × List Char) :=
  match settingAt (2 * cs.length + 4) (depthLimit - 1) cs with
  | none => none
  | some ((path, key, v), rest) =>
    match endLine rest, d.add path key v with
    | some rest, some d => some (d, rest)
    | _, _ => none

/-- Line after line. -/
def readLines (fuel : Nat) (d : Draft) (cs : List Char) : Option Draft :=
  match fuel with
  | 0 => none
  | fuel + 1 =>
    match skipBlanks cs with
    | [] => some d
    | '[' :: rest =>
      match headerLine d rest with
      | some (d, cs) => readLines fuel d cs
      | none => none
    | cs =>
      let blankLine := match cs with
        | '#' :: _ | '\n' :: _ | '\r' :: _ => true
        | _ => false
      if blankLine then
        match endLine cs with
        | some cs => readLines fuel d cs
        | none => none
      else match settingLine d cs with
        | some (d, cs) => readLines fuel d cs
        | none => none

/-- Reads a document; nothing if it is not one. -/
def parse (text : String) : Option Value :=
  let cs := match text.toList with
    | '\uFEFF' :: rest => rest
    | cs => cs
  (readLines (cs.length + 2) ⟨[], []⟩ cs).map fun d => .table (membersValue d.root)

end ToolAgent.Toml
