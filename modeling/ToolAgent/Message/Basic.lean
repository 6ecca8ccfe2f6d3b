import ToolAgent.Json.Printer
import ToolAgent.Text.Basic

/-!
# Messages

What is exchanged with the model: messages, the tool uses that an assistant's message proposes, the
results that answer them, and the specifications of the tools on offer.
-/

namespace ToolAgent

open Json (Value)

/-- Who a message is from. -/
inductive Role
  | user
  | assistant
  | system
  | tool
deriving DecidableEq, Repr

/-- How a role is written. -/
def Role.name : Role → String
  | .user => "user"
  | .assistant => "assistant"
  | .system => "system"
  | .tool => "tool"

/-- A tool call that the model proposes. -/
structure ToolUse where
  /-- What the result refers back to. -/
  id : String
  /-- The tool to call. -/
  name : String
  args : Value
deriving DecidableEq, Repr

/-- An argument that is a string. -/
def ToolUse.string? (use : ToolUse) (key : String) : Option String :=
  (use.args.get? key).bind Value.asString?

/-- A piece of a tool's output. -/
inductive Block
  | text (s : String)
  | json (v : Value)
deriving DecidableEq, Repr

/-- A block as text. -/
def Block.render : Block → String
  | .text s => s
  | .json v => v.text

/-- Whether a tool did what it was asked to. -/
inductive Status
  | success
  | error
deriving DecidableEq, Repr

/-- What came of a tool use. -/
structure ToolResult where
  useId : String
  content : List Block
  status : Status
deriving DecidableEq, Repr

namespace ToolResult

/-- A failure, in words. -/
def failure (useId text : String) : ToolResult := ⟨useId, [.text text], .error⟩

/-- Whether the tool use failed. -/
def isError (r : ToolResult) : Bool := r.status == .error

/-- All blocks, one after the other on lines of their own. -/
def text (r : ToolResult) : String := String.intercalate "\n" (r.content.map Block.render)

end ToolResult

/-- A tool that the model may call. -/
structure ToolSpec where
  name : String
  description : String
  /-- The schema of the arguments. -/
  inputSchema : Value
deriving DecidableEq, Repr

/-- The arguments that the schema asks for by name. -/
def ToolSpec.requiredArgs (spec : ToolSpec) : List String :=
  match (spec.inputSchema.get? "required").bind Value.asList? with
  | some items => items.filterMap Value.asString?
  | none => []

/-- A message to or from the model. -/
structure Message where
  role : Role
  content : String
  /-- The tool uses that an assistant proposes. -/
  toolUses : List ToolUse
  /-- The answers to the tool uses of the message before. -/
  toolResults : List ToolResult
deriving DecidableEq, Repr

namespace Message

/-- A message from the user. -/
def user (content : String) (results : List ToolResult) : Message := ⟨.user, content, [], results⟩

/-- A message from the assistant. -/
def assistant (content : String) (uses : List ToolUse) : Message := ⟨.assistant, content, uses, []⟩

/-- A message that sets the frame of the conversation. -/
def system (content : String) : Message := ⟨.system, content, [], []⟩

end Message

end ToolAgent
