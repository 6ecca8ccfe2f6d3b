import ToolAgent.Error
import ToolAgent.Message.Json

/-!
# The tools of a server, page by page

A server lists its tools in pages; every page but the last names a cursor with which to ask for the
next.
-/

namespace ToolAgent.Listing

open Json (Value Reader)
open Json.Read (Record field need)

/-- The method by which tools are listed. -/
def method : String := "tools/list"

/-! ### One tool -/

/-- A tool's description that is being read. -/
structure Draft where
  name : Option String
  description : Option (Option String)
  inputSchema : Option (Option Value)

/-- A tool as a server describes it: without a description it is empty, without a schema any object
will do. -/
def toolRecord : Record Draft ToolSpec where
  what := "struct McpToolDescriptor"
  whatCounted := "struct McpToolDescriptor with 3 elements"
  fields := [
    field "name" Json.Read.string Draft.name (fun a d => { d with name := some a }),
    field "description" (Json.Read.option Json.Read.string) Draft.description
      (fun a d => { d with description := some a }),
    field "inputSchema" (Json.Read.option Json.Read.value) Draft.inputSchema
      (fun a d => { d with inputSchema := some a })]
  start := ⟨none, none, none⟩
  finish absence d := do
    let name ← need absence 0 "name" d.name
    return ⟨name, (d.description.getD none).getD "",
      (d.inputSchema.getD none).getD (.object [("type", .string "object")])⟩

/-! ### One page -/

/-- A page: its tools, and the cursor of the next page. -/
structure Page where
  tools : List ToolSpec
  next : Option String
deriving DecidableEq, Repr

/-- Reads a page. -/
def Page.ofJson (v : Value) : Except Error Page :=
  match Json.Read.list toolRecord.read (.given ((v.get? "tools").getD (.list []))) with
  | .ok tools => .ok ⟨tools, (v.get? "nextCursor").bind Value.asString?⟩
  | .error fault => .error (.json (fault.message []))

/-- The parameters that ask for a page. -/
def params (cursor : Option String) : Option Value :=
  cursor.map fun k => .object [("cursor", .string k)]

/-! ### All pages -/

/-- Follows the cursors for at most `pages` pages, `ask` being a request to the server: the tools of
all pages, the first failure, or nothing if pages are left. -/
def follow (ask : σ → Option Value → Except Error Value × σ) :
    (pages : Nat) → σ → (cursor : Option String) → Option (Except Error (List ToolSpec)) × σ
  | 0, s, _ => (none, s)
  | pages + 1, s, cursor =>
    match ask s (params cursor) with
    | (.error e, s) => (some (.error e), s)
    | (.ok v, s) =>
      match Page.ofJson v with
      | .error e => (some (.error e), s)
      | .ok page =>
        match page.next with
        | none => (some (.ok page.tools), s)
        | some k =>
          match follow ask pages s (some k) with
          | (some (.ok more), s) => (some (.ok (page.tools ++ more)), s)
          | other => other

end ToolAgent.Listing
