import ToolAgent.Json.Reader
import ToolAgent.Message.Basic

/-!
# One turn of the user

While a prompt bounces between the model and the tools, a turn counts the rounds, gathers the texts
of the responses and the tokens they took, and lists the tools that ran. Its outcome sums that up.
-/

namespace ToolAgent

/-- Tokens that responses took, each count with 32 bits. The total is a count of its own: who
reports tokens may count more than those of the prompt and of the answer. -/
structure TokenUsage where
  prompt : UInt32
  completion : UInt32
  total : UInt32
deriving DecidableEq, Repr, Inhabited

namespace TokenUsage

/-- No tokens. -/
def zero : TokenUsage := ⟨0, 0, 0⟩

/-- The tokens of one response, of which two counts are known. -/
def ofCounts (prompt completion : UInt32) : TokenUsage :=
  ⟨prompt, completion, prompt + completion⟩

/-- The tokens of two responses together, count by count. A sum that takes more than 32 bits wraps
around. -/
def add (u v : TokenUsage) : TokenUsage :=
  ⟨u.prompt + v.prompt, u.completion + v.completion, u.total + v.total⟩

end TokenUsage

/-- A tool that ran, and how it went. -/
structure Execution where
  /-- The name that the model used. -/
  toolName : String
  useId : String
  success : Bool
deriving DecidableEq, Repr

namespace Execution

/-- The record of a tool with this result. -/
def ofResult (toolName : String) (result : ToolResult) : Execution :=
  ⟨toolName, result.useId, !result.isError⟩

open Json (Value Reader)
open Json.Read (Record field need)

/-- The object that stands for an execution. -/
def toJson (e : Execution) : Value :=
  .object [("success", .bool e.success), ("tool_name", .string e.toolName),
    ("tool_use_id", .string e.useId)]

/-- An execution that is being read. -/
structure Draft where
  toolName : Option String
  useId : Option String
  success : Option Bool

/-- How an execution is read: all three fields must be there. -/
def record : Record Draft Execution where
  what := "struct ToolExecution"
  whatCounted := "struct ToolExecution with 3 elements"
  fields := [
    field "tool_name" Json.Read.string Draft.toolName (fun a d => { d with toolName := some a }),
    field "tool_use_id" Json.Read.string Draft.useId (fun a d => { d with useId := some a }),
    field "success" Json.Read.bool Draft.success (fun a d => { d with success := some a })]
  start := ⟨none, none, none⟩
  finish absence d := do
    let toolName ← need absence 0 "tool_name" d.toolName
    let useId ← need absence 1 "tool_use_id" d.useId
    let success ← need absence 2 "success" d.success
    return ⟨toolName, useId, success⟩

/-- Reads an execution. -/
def read : Reader Execution := record.read

end Execution

/-- What a turn produced. -/
structure Outcome where
  /-- The texts of all responses. -/
  response : String
  /-- The tool rounds that were completed. -/
  toolRounds : Nat
  toolsExecuted : List Execution
  /-- Whether the turn ended at the limit of rounds. -/
  stoppedEarly : Bool
  /-- The tokens of all responses, if any response reported them. -/
  usage : Option TokenUsage
deriving DecidableEq, Repr

/-- A turn as far as it has come. -/
structure Turn where
  round : Nat
  maxRounds : Nat
  executions : List Execution
  text : String
  usage : Option TokenUsage
deriving DecidableEq, Repr

namespace Turn

/-- A turn before its first request. -/
def start (maxRounds : Nat) : Turn := ⟨0, maxRounds, [], "", none⟩

/-- Whether another round of tools is allowed. -/
def canRunTools (t : Turn) : Bool := t.round < t.maxRounds

/-- The turn after a round of tools. -/
def nextRound (t : Turn) : Turn := { t with round := t.round + 1 }

/-- Adds the text of a response on a line of its own; an empty one adds nothing. -/
def pushText (t : Turn) (text : String) : Turn :=
  if text = "" then t
  else if t.text = "" then { t with text := text }
  else { t with text := t.text ++ "\n" ++ text }

/-- Adds the tokens of a response, if it reports them. -/
def recordUsage (t : Turn) : Option TokenUsage → Turn
  | none => t
  | some u => { t with usage := some ((t.usage.getD .zero).add u) }

/-- Adds a tool that ran, after those before it. -/
def recordExecution (t : Turn) (e : Execution) : Turn :=
  { t with executions := t.executions ++ [e] }

/-- The tokens so far. -/
def usageSoFar (t : Turn) : TokenUsage := t.usage.getD .zero

/-- The turn summed up. -/
def outcome (t : Turn) (stoppedEarly : Bool) : Outcome :=
  ⟨t.text, t.round, t.executions, stoppedEarly, t.usage⟩

end Turn

end ToolAgent
