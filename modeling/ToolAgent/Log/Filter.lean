import ToolAgent.Log.Directive

/-!
# The filter of the log

A filter is a set of directives, the most specific ones first, so that the first one that fits
decides. Directives that can be checked without looking at spans and values stand before those that
cannot.
-/

namespace ToolAgent.Log

/-! ### Which directive is more specific -/

/-- The place of a number among all numbers of the format. -/
def weight : Binary → Int
  | .finite negative m e =>
    let size := m * Nat.pow 2 (e - Binary.double.lowest).toNat
    if negative then -(size : Int) else size
  | .infinite negative => if negative then -Int.ofNat (Nat.pow 2 2200) else Nat.pow 2 2200
  | .nan => Nat.pow 2 2201

/-- The kind of a value, and its place among those of its kind. -/
def FieldValue.key : FieldValue → Nat × Int × String
  | .bool b => (0, if b then 1 else 0, "")
  | .real x => (1, weight x, "")
  | .natural n => (2, n, "")
  | .integer n => (3, n, "")
  | .pattern s => (4, 0, s)

/-- The order of texts by their characters. -/
def compareText (a b : String) : Ordering := compareOfLessAndEq a b

/-- The order of natural numbers. -/
def compareNat (a b : Nat) : Ordering := compareOfLessAndEq a b

/-- Nothing is less than something. -/
def compareOption (compare : α → α → Ordering) : Option α → Option α → Ordering
  | none, none => .eq
  | none, some _ => .lt
  | some _, none => .gt
  | some a, some b => compare a b

/-- The order of values: by kind first, so that kinds do not mix. -/
def FieldValue.compare (a b : FieldValue) : Ordering :=
  let (kindA, placeA, textA) := a.key
  let (kindB, placeB, textB) := b.key
  (compareOfLessAndEq kindA kindB).then
    ((compareOfLessAndEq placeA placeB).then (compareText textA textB))

/-- A field with a value is more specific than one without. -/
def Field.compare (a b : Field) : Ordering :=
  (compareOption (fun _ _ => .eq) a.value b.value).then
    ((compareText a.name b.name).then (compareOption FieldValue.compare a.value b.value))

/-- The order by how specific directives are: by the length of the target, by whether there are a
span and a field, and else by their texts. -/
def Directive.compare (a b : Directive) : Ordering :=
  let size (d : Directive) := d.target.map String.utf8ByteSize
  (compareOption compareNat (size a) (size b)).then
    ((compareOption (fun _ _ => .eq) a.span b.span).then
      ((compareOption (fun _ _ => .eq) a.field b.field).then
        ((compareOption compareText a.target b.target).then
          ((compareOption compareText a.span b.span).then
            (compareOption Field.compare a.field b.field)))))

/-- Adds a directive before those that are less specific; it replaces one for the same place. -/
def insert (d : Directive) : List Directive → List Directive
  | [] => [d]
  | e :: es =>
    match d.compare e with
    | .gt => d :: e :: es
    | .eq => d :: es
    | .lt => e :: insert d es

/-- The directives with the most specific one first, one for each place. -/
def sorted (ds : List Directive) : List Directive := ds.foldl (fun es d => insert d es) []

/-! ### Filters -/

/-- Directives as they are consulted. -/
structure Filter where
  /-- Directives that look at the target, and at which fields there are. -/
  statics : List Directive
  /-- Directives that look at spans and fields. -/
  dynamics : List Directive
deriving DecidableEq, Repr

/-- Whether a directive needs no span and no value. -/
def Directive.isStatic (d : Directive) : Bool :=
  d.span.isNone && (d.field.all fun f => f.value.isNone)

/-- Whether a directive looks at spans or fields. -/
def Directive.isDynamic (d : Directive) : Bool := d.span.isSome || d.field.isSome

namespace Filter

/-- The filter of these directives. One on a field without a value counts on both sides. -/
def ofDirectives (ds : List Directive) : Filter where
  statics := sorted (ds.filter (fun d => !d.isDynamic)
    ++ ds.filter fun d => d.isDynamic && d.isStatic)
  dynamics := sorted (ds.filter Directive.isDynamic)

/-- Reads directives with commas between them. -/
def ofText? (text : String) : Option Filter :=
  let pieces := (text.toList.splitOn ',').filter (· ≠ [])
  (pieces.mapM fun cs => Directive.ofText? (String.ofList cs)).map ofDirectives

/-- The filter from a variable of the environment if it can be read, else from the configured level
if that can be read, else for warnings. -/
def choose (given : Option String) (level : String) : Filter :=
  ((given.bind ofText?).or (ofText? level)).getD (ofDirectives [⟨none, none, none, .warn⟩])

/-- The filter written as directives with commas between them. -/
def text (f : Filter) : String :=
  String.intercalate "," ((f.statics ++ f.dynamics).map Directive.text)

end Filter

end ToolAgent.Log
