import ToolAgent.Json.Fault

/-!
# JSON as it is read

A *node* is a JSON text as far as it could be made out, with the spots where its parts end; a place
that cannot be made out is a node of its own. So a reader walks over a text and over a value in the
same way and meets the first thing wrong, be it the text or the type.

What nobody asks for is skipped, and skipping is more lenient than reading: a number may be too
large and a string may hold half a surrogate pair. A *gap* therefore says separately what reading
and what skipping comes to.
-/

namespace ToolAgent.Json

/-- A place that cannot be read; `skipping` is what skipping it comes to, none if it can be
skipped. `entry` is the spot of its first character where that could begin a number or a word. -/
structure Gap where
  reading : Fault
  skipping : Option Fault
  entry : Option Spot
deriving DecidableEq, Repr

/-- The same fault for reading and skipping. -/
def Gap.ofFault (f : Fault) : Gap := ⟨f, some f, none⟩

/-- Where a part of a text begins and ends; neither is known of a value. -/
structure Span where
  start : Option Spot
  stop : Option Spot
deriving DecidableEq, Repr

/-- The span of what is not part of a text. -/
def Span.unplaced : Span := ⟨none, none⟩

/-- The key of a member. -/
structure Key where
  name : String
  broken : Option Gap
  stop : Option Spot
  closing : Option Spot
deriving DecidableEq, Repr

mutual

/-- A value as it is read. -/
inductive Node
  /-- A value that is not a text. -/
  | given (v : Value)
  | null (span : Span)
  | bool (b : Bool) (span : Span)
  | number (n : Number) (span : Span)
  | string (s : String) (span : Span)
  /-- A list; `deep` if it is nested too deeply to be read. -/
  | list (start : Option Spot) (deep : Bool) (items : Items)
  /-- An object; `deep` if it is nested too deeply to be read. -/
  | object (start : Option Spot) (deep : Bool) (members : Members)
  | gap (g : Gap)

/-- The items of a list. `closing` is the spot that an attempt to close the list after an item
comes to. -/
inductive Items
  | done (stop : Option Spot)
  | item (head : Node) (closing : Option Spot) (rest : Items)
  | gap (g : Gap)

/-- The members of an object, in the order of the text. `closingKey` and `closing` are the spots
that an attempt to close the object after the key, and after the value, comes to. Where something
other than a string stands in the place of a key, `instead` is what that is. -/
inductive Members
  | done (stop : Option Spot)
  | member (key : Key) (value : Node) (closing : Option Spot) (rest : Members)
  | gap (g : Gap) (instead : Option Node)

end

/-- A text as it is read: its value, and what is wrong with what follows. -/
structure Document where
  root : Node
  tail : Option Fault

/-! ### Values as nodes -/

/-- The items of a value that is a list. -/
def Items.ofList : List Value → Items
  | [] => .done none
  | v :: rest => .item (.given v) none (Items.ofList rest)

/-- The members of a value that is an object. -/
def Members.ofList : List (String × Value) → Members
  | [] => .done none
  | (k, v) :: rest => .member ⟨k, none, none, none⟩ (.given v) none (Members.ofList rest)

/-- The outermost layer of a node, values unfolded. -/
def Node.unfold : Node → Node
  | .given .null => .null .unplaced
  | .given (.bool b) => .bool b .unplaced
  | .given (.number n) => .number n .unplaced
  | .given (.string s) => .string s .unplaced
  | .given (.list items) => .list none false (Items.ofList items)
  | .given (.object members) => .object none false (Members.ofList members)
  | node => node

/-! ### Skipping and reading whole values -/

mutual

/-- Goes over a value that nobody asks for. -/
def Node.skip : Node → Except Fault Unit
  | .list _ _ items => items.skip
  | .object _ _ members => members.skip
  | .gap ⟨_, some f, _⟩ => .error f
  | _ => .ok ()

/-- Goes over items that nobody asks for. -/
def Items.skip : Items → Except Fault Unit
  | .done _ => .ok ()
  | .item head _ rest => do head.skip; rest.skip
  | .gap g => .error (g.skipping.getD g.reading)

/-- Goes over members that nobody asks for. -/
def Members.skip : Members → Except Fault Unit
  | .done _ => .ok ()
  | .member ⟨_, some ⟨_, some f, _⟩, _, _⟩ _ _ _ => .error f
  | .member _ value _ rest => do value.skip; rest.skip
  | .gap g _ => .error (g.skipping.getD g.reading)

end

/-- The fault of a list or an object that is nested too deeply. -/
def tooDeep (start : Option Spot) : Fault :=
  ⟨.recursionLimit, start.map fun s => ⟨s.left, s.ahead + 1⟩⟩

mutual

/-- The whole value of a node. -/
def Node.value : Node → Except Fault Value
  | .given v => .ok v
  | .null _ => .ok .null
  | .bool b _ => .ok (.bool b)
  | .number n _ => .ok (.number n)
  | .string s _ => .ok (.string s)
  | .list start deep items =>
    if deep then .error (tooDeep start) else do return .list (← items.values)
  | .object start deep members =>
    if deep then .error (tooDeep start) else do return .ofMembers (← members.values)
  | .gap g => .error g.reading

/-- The whole values of items. -/
def Items.values : Items → Except Fault (List Value)
  | .done _ => .ok []
  | .item head _ rest => do return (← head.value) :: (← rest.values)
  | .gap g => .error g.reading

/-- The whole values of members, with their keys. -/
def Members.values : Members → Except Fault (List (String × Value))
  | .done _ => .ok []
  | .member ⟨_, some g, _, _⟩ _ _ _ => .error g.reading
  | .member ⟨key, none, _, _⟩ value _ rest => do return (key, ← value.value) :: (← rest.values)
  | .gap g _ => .error g.reading

end

end ToolAgent.Json
