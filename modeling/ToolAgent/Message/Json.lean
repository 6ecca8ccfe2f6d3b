import ToolAgent.Json.Reader
import ToolAgent.Message.Basic

/-!
# Messages as JSON

Each type has a writer `toJson` and a reader `read`. Fields that are empty by default are left out
when a message is written.
-/

namespace ToolAgent

open Json (Value Reader Node Fault)
open Json.Read (Field Record Absence field need)

/-! ### Role -/

/-- A role by its name. -/
def Role.toJson (r : Role) : Value := .string r.name

/-- Reads a role. -/
def Role.read : Reader Role :=
  Json.Read.choice ["user", "assistant", "system", "tool"] fun name =>
    if name = "user" then some (Json.Read.plain .user)
    else if name = "assistant" then some (Json.Read.plain .assistant)
    else if name = "system" then some (Json.Read.plain .system)
    else if name = "tool" then some (Json.Read.plain .tool)
    else none

/-! ### Tool uses -/

namespace ToolUse

/-- The object that stands for a tool use. -/
def toJson (use : ToolUse) : Value :=
  .object [("args", use.args), ("id", .string use.id), ("name", .string use.name)]

/-- A tool use that is being read. -/
structure Draft where
  id : Option String
  name : Option String
  args : Option Value

/-- How a tool use is read: all three fields must be there. -/
def record : Record Draft ToolUse where
  what := "struct ToolUse"
  whatCounted := "struct ToolUse with 3 elements"
  fields := [
    field "id" Json.Read.string Draft.id (fun a d => { d with id := some a }),
    field "name" Json.Read.string Draft.name (fun a d => { d with name := some a }),
    field "args" Json.Read.value Draft.args (fun a d => { d with args := some a })]
  start := ⟨none, none, none⟩
  finish absence d := do
    let id ← need absence 0 "id" d.id
    let name ← need absence 1 "name" d.name
    let args ← need absence 2 "args" d.args
    return ⟨id, name, args⟩

/-- Reads a tool use. -/
def read : Reader ToolUse := record.read

end ToolUse

/-! ### Tool results -/

/-- A block as an object with its kind as the only key. -/
def Block.toJson : Block → Value
  | .text s => .object [("text", .string s)]
  | .json v => .object [("json", v)]

/-- Reads a block. -/
def Block.read : Reader Block :=
  Json.Read.choice ["text", "json"] fun name =>
    if name = "text" then some (Json.Read.carrying fun node => (Json.Read.string node).map .text)
    else if name = "json" then
      some (Json.Read.carrying fun node => (Json.Read.value node).map .json)
    else none

/-- A status by its name. -/
def Status.toJson : Status → Value
  | .success => .string "success"
  | .error => .string "error"

/-- Reads a status. -/
def Status.read : Reader Status :=
  Json.Read.choice ["success", "error"] fun name =>
    if name = "success" then some (Json.Read.plain .success)
    else if name = "error" then some (Json.Read.plain .error)
    else none

namespace ToolResult

/-- The object that stands for a tool result. -/
def toJson (r : ToolResult) : Value :=
  .object [("content", .list (r.content.map Block.toJson)), ("status", r.status.toJson),
    ("tool_use_id", .string r.useId)]

/-- A tool result that is being read. -/
structure Draft where
  useId : Option String
  content : Option (List Block)
  status : Option Status

/-- How a tool result is read: all three fields must be there. -/
def record : Record Draft ToolResult where
  what := "struct ToolResult"
  whatCounted := "struct ToolResult with 3 elements"
  fields := [
    field "tool_use_id" Json.Read.string Draft.useId (fun a d => { d with useId := some a }),
    field "content" (Json.Read.list Block.read) Draft.content
      (fun a d => { d with content := some a }),
    field "status" Status.read Draft.status (fun a d => { d with status := some a })]
  start := ⟨none, none, none⟩
  finish absence d := do
    let useId ← need absence 0 "tool_use_id" d.useId
    let content ← need absence 1 "content" d.content
    let status ← need absence 2 "status" d.status
    return ⟨useId, content, status⟩

/-- Reads a tool result. -/
def read : Reader ToolResult := record.read

end ToolResult

/-! ### Tool specifications -/

namespace ToolSpec

/-- The object that stands for a specification. -/
def toJson (spec : ToolSpec) : Value :=
  .object [("description", .string spec.description), ("input_schema", spec.inputSchema),
    ("name", .string spec.name)]

/-- A specification that is being read. -/
structure Draft where
  name : Option String
  description : Option String
  inputSchema : Option Value

/-- How a specification is read; the schema may be written with either of its names. -/
def record : Record Draft ToolSpec where
  what := "struct ToolSpec"
  whatCounted := "struct ToolSpec with 3 elements"
  fields := [
    field "name" Json.Read.string Draft.name (fun a d => { d with name := some a }),
    field "description" Json.Read.string Draft.description
      (fun a d => { d with description := some a }),
    { field "input_schema" Json.Read.value Draft.inputSchema
        (fun a d => { d with inputSchema := some a }) with altName := some "inputSchema" }]
  start := ⟨none, none, none⟩
  finish absence d := do
    let name ← need absence 0 "name" d.name
    let description ← need absence 1 "description" d.description
    let inputSchema ← need absence 2 "input_schema" d.inputSchema
    return ⟨name, description, inputSchema⟩

/-- Reads a specification. -/
def read : Reader ToolSpec := record.read

end ToolSpec

/-! ### Messages -/

namespace Message

/-- The object that stands for a message; empty lists are left out. -/
def toJson (m : Message) : Value :=
  .object ([("content", .string m.content), ("role", m.role.toJson)]
    ++ (if m.toolResults = [] then []
        else [("tool_results", .list (m.toolResults.map ToolResult.toJson))])
    ++ (if m.toolUses = [] then [] else [("tool_uses", .list (m.toolUses.map ToolUse.toJson))]))

/-- A message that is being read. -/
structure Draft where
  role : Option Role
  content : Option String
  toolUses : Option (List ToolUse)
  toolResults : Option (List ToolResult)

/-- How a message is read: the lists may be missing. -/
def record : Record Draft Message where
  what := "struct Message"
  whatCounted := "struct Message with 4 elements"
  fields := [
    field "role" Role.read Draft.role (fun a d => { d with role := some a }),
    field "content" Json.Read.string Draft.content (fun a d => { d with content := some a }),
    field "tool_uses" (Json.Read.list ToolUse.read) Draft.toolUses
      (fun a d => { d with toolUses := some a }),
    field "tool_results" (Json.Read.list ToolResult.read) Draft.toolResults
      (fun a d => { d with toolResults := some a })]
  start := ⟨none, none, none, none⟩
  finish absence d := do
    let role ← need absence 0 "role" d.role
    let content ← need absence 1 "content" d.content
    return ⟨role, content, d.toolUses.getD [], d.toolResults.getD []⟩

/-- Reads a message. -/
def read : Reader Message := record.read

end Message

end ToolAgent
