import ToolAgent.Json.Scanner

/-!
# Reading typed data

A reader takes a node to data of some type. Those below read the usual types; records and choices
are read from a description of their parts.

A record may be written as an object, its fields in any order and unknown members ignored, or as a
list of its fields in order of declaration. A field is met at most once. A choice without data is
written as its name, a choice with data as an object with its name as the only key.
-/

namespace ToolAgent.Json

/-- Reads data of a type from a node. -/
abbrev Reader (α : Type) := Node → Except Fault α

namespace Read

/-- The fault of finding this node where `expected` should be. -/
def mismatch (expected : String) (node : Node) : Fault :=
  match node.unfold with
  | .given _ => .unplaced (.invalidType .null expected)
  | .null span => ⟨.invalidType .null expected, span.stop⟩
  | .bool b span => ⟨.invalidType (.bool b) expected, span.stop⟩
  | .number (.int n) span => ⟨.invalidType (.integer n) expected, span.stop⟩
  | .number (.real x) span => ⟨.invalidType (.real x) expected, span.stop⟩
  | .string s span => ⟨.invalidType (.string s) expected, span.stop⟩
  | .list start _ _ => ⟨.invalidType .sequence expected, start⟩
  | .object start _ _ => ⟨.invalidType .map expected, start⟩
  | .gap g => g.reading

/-! ### Plain types -/

/-- Reads any value. -/
def value : Reader Value := Node.value

/-- Reads a text. -/
def string : Reader String := fun node =>
  match node.unfold with
  | .string s _ => .ok s
  | _ => .error (mismatch "a string" node)

/-- Reads a truth value. -/
def bool : Reader Bool := fun node =>
  match node.unfold with
  | .bool b _ => .ok b
  | _ => .error (mismatch "a boolean" node)

/-- An integer between the bounds. -/
def integer (expected : String) (low high : Int) : Reader Int := fun node =>
  match node.unfold with
  | .number (.int n) span =>
    if low ≤ n && n ≤ high then .ok n
    else .error ⟨.invalidValue (.integer n) expected, span.stop⟩
  | _ => .error (mismatch expected node)

/-- A natural number of 64 bits. -/
def word (expected : String) : Reader UInt64 := fun node =>
  (integer expected 0 0xFFFFFFFFFFFFFFFF node).map fun n => UInt64.ofNat n.toNat

/-- Reads `null`, for a type with one value. -/
def unit : Reader Unit := fun node =>
  match node.unfold with
  | .null _ => .ok ()
  | _ => .error (mismatch "unit" node)

/-- `null` or something. -/
def option (reader : Reader α) : Reader (Option α) := fun node =>
  match node.unfold with
  | .null _ => .ok none
  | _ => (reader node).map some

/-! ### Lists and maps -/

/-- The items of a list. -/
def items (reader : Reader α) : Items → Except Fault (List α)
  | .done _ => .ok []
  | .item head closing rest =>
    match reader head with
    | .error f => .error (f.settle closing)
    | .ok a => (items reader rest).map (a :: ·)
  | .gap g => .error g.reading

/-- Reads a list whose items are all read alike. -/
def list (reader : Reader α) : Reader (List α) := fun node =>
  match node.unfold with
  | .list start deep is => if deep then .error (tooDeep start) else items reader is
  | _ => .error (mismatch "a sequence" node)

/-- The members of an object whose keys are free. -/
def entries (reader : Reader α) : Members → Except Fault (List (String × α))
  | .done _ => .ok []
  | .member key value closing rest =>
    match key.broken, reader value with
    | some g, _ => .error g.reading
    | none, .error f => .error (f.settle closing)
    | none, .ok a => (entries reader rest).map ((key.name, a) :: ·)
  | .gap g _ => .error g.reading

/-- The members of an object whose keys are free, in the order of the object. -/
def map (reader : Reader α) : Reader (List (String × α)) := fun node =>
  match node.unfold with
  | .object start deep ms => if deep then .error (tooDeep start) else entries reader ms
  | _ => .error (mismatch "a map" node)

/-! ### Records -/

/-- A field of a record that is being read into `σ`. -/
structure Field (σ : Type) where
  /-- The name that messages use. -/
  name : String
  /-- Another name that is taken as well. -/
  altName : Option String
  /-- Whether the field has been read. -/
  isRead : σ → Bool
  /-- Reads the field. -/
  read : Node → σ → Except Fault σ

/-- A field with one name, seen through `get` and `set`. -/
def field (name : String) (reader : Reader α) (get : σ → Option α) (set : α → σ → σ) : Field σ :=
  ⟨name, none, fun s => (get s).isSome, fun node s => (reader node).map (set · s)⟩

/-- Whether a key names the field, by its name or by its other name. -/
def Field.answersTo (f : Field σ) (key : String) : Bool := f.name == key || f.altName == some key

/-- Reads the members of an object into the fields. -/
def members (fields : List (Field σ)) (s : σ) : Members → Except Fault (σ × Option Spot)
  | .done stop => .ok (s, stop)
  | .member key value closing rest =>
    match key.broken with
    | some g => .error g.reading
    | none =>
      match fields.find? (·.answersTo key.name) with
      | none =>
        match value.skip with
        | .error f => .error f
        | .ok _ => members fields s rest
      | some f =>
        if f.isRead s then .error ⟨.duplicateField f.name, key.closing⟩
        else match f.read value s with
          | .error fault => .error (fault.settle closing)
          | .ok s => members fields s rest
  | .gap g _ => .error g.reading

/-- Reads the items of a list into the fields in turn; the rest is what is left of the list. -/
def positions (s : σ) (closing : Option Spot) :
    List (Field σ) → Items → Except Fault (σ × Option Spot × Items)
  | [], rest => .ok (s, closing, rest)
  | _ :: _, .done stop => .ok (s, stop, .done stop)
  | f :: fields, .item head closing rest =>
    match f.read head s with
    | .error fault => .error (fault.settle closing)
    | .ok s => positions s closing fields rest
  | _ :: _, .gap g => .error g.reading

/-- The number of items. -/
def count : Items → Nat
  | .item _ _ rest => count rest + 1
  | _ => 0

/-- What is wrong with items after the last of `taken` fields; `closing` is the spot after that
field. Of a value, `surplus` says it. -/
def leftOver (surplus : (total : Nat) → Cause) (all : Items) (closing : Option Spot) :
    Items → Except Fault Unit
  | .done _ => .ok ()
  | .item _ _ _ =>
    match closing with
    | some spot => .error ⟨.trailingCharacters, some ⟨spot.left, spot.ahead + 1⟩⟩
    | none => .error (.unplaced (surplus (count all)))
  | .gap g =>
    match g.reading.cause with
    | .trailingComma | .endOfList => .error g.reading
    | _ => .error ⟨.trailingCharacters, g.reading.spot⟩

/-- How a missing field is complained about: by its name, or by the place it would have in a list.
-/
structure Absence where
  complain : (index : Nat) → (name : String) → Cause
  /-- The complaint about a field that may be missing in an object, if it may not in a list. -/
  complainOptional : (index : Nat) → Option Cause

/-- A record: its fields, and how it is completed. `what` is its description in messages, and
`finish` makes the record of what was read. -/
structure Record (σ α : Type) where
  what : String
  /-- The description with the number of elements. -/
  whatCounted : String
  fields : List (Field σ)
  start : σ
  finish : Absence → σ → Except Cause α

/-- The value of a field that must be there. -/
def need (absence : Absence) (index : Nat) (name : String) : Option α → Except Cause α
  | some a => .ok a
  | none => .error (absence.complain index name)

/-- The value of a field that an object may lack, but not a list. -/
def Absence.optional (absence : Absence) (index : Nat) : Option (Option α) → Except Cause (Option α)
  | some a => .ok a
  | none =>
    match absence.complainOptional index with
    | some cause => .error cause
    | none => .ok none

/-- A record written as an object or as a list; `surplus` is the complaint about a list of too many
items. -/
def Record.readWith (surplus : (total : Nat) → Cause) (record : Record σ α) : Reader α :=
  fun node =>
  match node.unfold with
  | .object start deep ms =>
    if deep then .error (tooDeep start)
    else match members record.fields record.start ms with
      | .error f => .error f
      | .ok (s, stop) =>
        match record.finish ⟨fun _ name => .missingField name, fun _ => none⟩ s with
        | .error cause => .error ⟨cause, stop⟩
        | .ok a => .ok a
  | .list start deep is =>
    if deep then .error (tooDeep start)
    else match positions record.start none record.fields is with
      | .error f => .error f
      | .ok (s, closing, rest) =>
        let short (index : Nat) : Cause := .invalidLength index record.whatCounted
        match record.finish ⟨fun index _ => short index, fun index => some (short index)⟩ s with
        | .error cause => .error ⟨cause, closing⟩
        | .ok a => (leftOver surplus is closing rest).map fun _ => a
  | _ => .error (mismatch record.what node)

/-- A record written as an object or as a list. -/
def Record.read (record : Record σ α) : Reader α :=
  record.readWith fun total => .invalidLength total "fewer elements in array"

/-! ### Choices -/

/-- The fault of a text that has neither a string nor an object where a choice should be. -/
def notChoice (node : Node) : Fault :=
  let refuse (start : Option Spot) (fault : Fault) : Fault :=
    match start with
    | some spot => ⟨.expectedValue, some ⟨spot.left, spot.ahead + 1⟩⟩
    | none => fault
  let fault := mismatch "string or map" node
  match node.unfold with
  | .null span | .bool _ span | .number _ span | .string _ span => refuse span.start fault
  | .list start _ _ | .object start _ _ => refuse start fault
  | .gap g => refuse g.entry g.reading
  | .given _ => fault

/-- The single member of an object that writes a choice: its key, its value, and a check of what
follows. -/
def onlyMember : Members → Except Fault (Key × Node × Except Fault Unit)
  | .done none => .error (.unplaced (.invalidValue .map "map with a single key"))
  | .done stop => .error ⟨.expectedValue, stop⟩
  | .gap _ (some instead) => .error (mismatch "variant identifier" instead)
  | .gap g none => .error g.reading
  | .member key value closing rest =>
    match key.broken with
    | some g => .error g.reading
    | none =>
      match rest, closing with
      | .done _, _ => .ok (key, value, .ok ())
      | .member _ _ _ _, none => .error (.unplaced (.invalidValue .map "map with a single key"))
      | .gap ⟨⟨.endOfObject, spot⟩, _, _⟩ _, _ => .ok (key, value, .error ⟨.endOfObject, spot⟩)
      | _, _ => .ok (key, value, .error ⟨.expectedValue, closing⟩)

/-- A choice: from the name and, if the choice is written with data, the reader of that data. -/
def choice (known : List String) (pick : String → Option (Option Node → Except Fault α)) :
    Reader α := fun node =>
  match node.unfold with
  | .string name span =>
    match pick name with
    | some make => make none
    | none => .error ⟨.unknownVariant name known, span.stop⟩
  | .object start deep ms =>
    if deep then .error (tooDeep start)
    else match onlyMember ms with
      | .error f => .error f
      | .ok (key, value, closed) =>
        match pick key.name with
        | none => .error ⟨.unknownVariant key.name known, key.stop⟩
        | some make =>
          match make (some value), closed with
          | .error f, _ => .error f
          | .ok _, .error f => .error f
          | .ok a, .ok () => .ok a
  | _ => .error (notChoice node)

/-- A choice without data. -/
def plain (a : α) : Option Node → Except Fault α
  | none => .ok a
  | some node => (unit node).map fun _ => a

/-- A choice with data. -/
def carrying (reader : Reader α) : Option Node → Except Fault α
  | none => .error (.unplaced (.invalidType .unitVariant "newtype variant"))
  | some node => reader node

/-! ### Tagged records -/

/-- The complaint about a list with more items than a tagged record has fields. -/
def surplusOf (fields : Nat) (total : Nat) : Cause :=
  .invalidLength total
    (toString fields ++ (if fields = 1 then " element" else " elements") ++ " in sequence")

/-- A record that is told from others by a tag beside its fields. -/
def Record.readTagged (record : Record σ α) : Reader α :=
  record.readWith (surplusOf record.fields.length)

/-- One of several records, told apart by the member `tag` of an object or the first item of a
list. -/
def tagged (tag what : String) (known : List String) (pick : String → Option (Reader α))
    (v : Value) : Except Fault α :=
  let go (label rest : Value) : Except Fault α :=
    match label with
    | .string name =>
      match pick name with
      | some reader => reader (.given rest)
      | none => .error (.unplaced (.unknownVariant name known))
    | _ => .error (mismatch "variant identifier" (.given label))
  match v with
  | .object ms =>
    match Entries.find? tag ms with
    | some label => go label (.object (ms.filter (·.1 ≠ tag)))
    | none => .error (.unplaced (.missingField tag))
  | .list (label :: rest) => go label (.list rest)
  | .list [] => .error (.unplaced (.missingField tag))
  | _ => .error (mismatch ("internally tagged enum " ++ what) (.given v))

end Read

end ToolAgent.Json
