import ToolAgent.Message.Json
import ToolAgent.Model.Response
import ToolAgent.Number.Shortest

/-!
# Requests as the backend reads them

The backend knows messages with one role and one text each. A message that carries tool results
becomes one message of the tool's for each result, ahead of the user's own text; a result is
labelled with the name of the tool, which the tool use of the same id gives.
-/

namespace ToolAgent.Wire

open Json (Value)

/-- A message as the backend reads it. -/
structure Line where
  role : Role
  content : String
  /-- The tool uses of an assistant's message. -/
  calls : List ToolUse
  /-- The tool whose result this is. -/
  toolName : Option String
deriving DecidableEq, Repr

/-- The names of tools by the ids of their uses. -/
abbrev ToolNames := Table String

/-- The message for a tool result. -/
def ofResult (names : ToolNames) (r : ToolResult) : Line := ⟨.tool, r.text, [], names.get? r.useId⟩

/-- The messages for one message. A text that is empty is left out beside tool results. -/
def ofMessage (names : ToolNames) (m : Message) : List Line :=
  m.toolResults.map (ofResult names)
    ++ if m.toolResults = [] ∨ m.content ≠ "" then [⟨m.role, m.content, m.toolUses, none⟩] else []

/-- The names with those of more tool uses; of several uses with one id the last counts. -/
def learn (names : ToolNames) (uses : List ToolUse) : ToolNames :=
  uses.foldl (fun t use => t.insert use.id use.name) names

/-- The messages for messages, the names of earlier tool uses being known. -/
def ofMessagesFrom (names : ToolNames) : List Message → List Line
  | [] => []
  | m :: ms => ofMessage names m ++ ofMessagesFrom (learn names m.toolUses) ms

/-- The messages for messages. -/
def ofMessages (ms : List Message) : List Line := ofMessagesFrom .empty ms

/-! ### As JSON -/

/-- A proposed tool use as the backend writes it. -/
def callJson (use : ToolUse) : Value :=
  .object [("function", .object [("arguments", use.args), ("name", .string use.name)]),
    ("id", .string use.id)]

/-- A message as the backend writes it; what does not apply is left out. -/
def Line.toJson (l : Line) : Value :=
  .object ([("content", .string l.content), ("role", .string l.role.name)]
    ++ (if l.calls = [] then [] else [("tool_calls", .list (l.calls.map callJson))])
    ++ (match l.toolName with
      | some name => [("tool_name", .string name)]
      | none => []))

/-- A tool on offer as the backend writes it. -/
def toolJson (spec : ToolSpec) : Value :=
  .object
    [("function", .object [("description", .string spec.description), ("name", .string spec.name),
      ("parameters", spec.inputSchema)]),
    ("type", .string "function")]

/-- A number of 32 bits with as many digits as it needs; nothing for one that is not finite. -/
def numberJson : Binary → Value
  | .finite negative 0 _ => .number (.real (.finite negative 0 Binary.double.lowest))
  | .finite negative m e =>
    let d := Binary.single.shortest m e
    .number (.real (Binary.double.roundDecimal negative d.digits d.power))
  | _ => .null

/-- The body of a request. The answer shall be streamed. -/
def body (r : ChatRequest) : Value :=
  .object ([("messages", .list ((ofMessages r.messages).map Line.toJson)),
    ("model", .string r.model)]
    ++ (match r.temperature with
      | some x => [("options", .object [("temperature", numberJson x)])]
      | none => [])
    ++ [("stream", .bool true)]
    ++ (if r.tools = [] then [] else [("tools", .list (r.tools.map toolJson))]))

end ToolAgent.Wire
