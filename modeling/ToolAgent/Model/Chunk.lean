import ToolAgent.Json.Reader

/-!
# One line of a streamed answer

The backend streams its answer as lines, each a JSON object with a piece of the answer.
-/

namespace ToolAgent

open Json (Value Reader)
open Json.Read (Record field need)

/-- A tool call that the backend reports, with its id if the backend gives one. -/
structure ReportedCall where
  id : Option String
  name : String
  args : Value
deriving DecidableEq, Repr

namespace ReportedCall

/-- What is called, while it is being read. -/
structure FunctionDraft where
  name : Option String
  args : Option Value

/-- The name of the tool and the arguments, nothing if they are left out. -/
def function : Record FunctionDraft (String × Value) where
  what := "a function"
  whatCounted := "a function with 2 elements"
  fields := [
    field "name" Json.Read.string FunctionDraft.name (fun a d => { d with name := some a }),
    field "arguments" Json.Read.value FunctionDraft.args (fun a d => { d with args := some a })]
  start := ⟨none, none⟩
  finish absence d := do
    let name ← need absence 0 "name" d.name
    return (name, d.args.getD .null)

/-- A call that is being read. -/
structure Draft where
  id : Option (Option String)
  function : Option (String × Value)

/-- How a call is read: the arguments and the id may be missing. -/
def record : Record Draft ReportedCall where
  what := "a tool call"
  whatCounted := "a tool call with 2 elements"
  fields := [
    field "id" (Json.Read.option Json.Read.string) Draft.id (fun a d => { d with id := some a }),
    field "function" function.read Draft.function (fun a d => { d with function := some a })]
  start := ⟨none, none⟩
  finish absence d := do
    let (name, args) ← need absence 1 "function" d.function
    return ⟨d.id.getD none, name, args⟩

end ReportedCall

/-- A piece of an answer. -/
structure Chunk where
  content : String
  calls : List ReportedCall
  /-- Whether the answer is complete. -/
  done : Bool
  promptTokens : Option UInt32
  completionTokens : Option UInt32
  /-- What went wrong. -/
  error : Option String
deriving DecidableEq, Repr

namespace Chunk

/-- The message in a chunk, while it is being read. -/
structure MessageDraft where
  content : Option String
  calls : Option (Option (List ReportedCall))

/-- The text and the tool calls of a message. -/
def message : Record MessageDraft (String × List ReportedCall) where
  what := "a message"
  whatCounted := "a message with 2 elements"
  fields := [
    field "content" Json.Read.string MessageDraft.content (fun a d => { d with content := some a }),
    field "tool_calls" (Json.Read.option (Json.Read.list ReportedCall.record.read))
      MessageDraft.calls
      (fun a d => { d with calls := some a })]
  start := ⟨none, none⟩
  finish _ d := .ok (d.content.getD "", (d.calls.getD none).getD [])

/-- A number of tokens: 32 bits. -/
def tokens : Reader UInt32 := fun node =>
  (Json.Read.integer "u32" 0 0xFFFFFFFF node).map fun n => .ofNat n.toNat

/-- A chunk that is being read. -/
structure Draft where
  message : Option (Option (String × List ReportedCall))
  done : Option Bool
  promptTokens : Option (Option UInt32)
  completionTokens : Option (Option UInt32)
  error : Option (Option String)

/-- How a chunk is read: everything may be missing. -/
def record : Record Draft Chunk where
  what := "a chunk"
  whatCounted := "a chunk with 5 elements"
  fields := [
    field "message" (Json.Read.option message.read) Draft.message
      (fun a d => { d with message := some a }),
    field "done" Json.Read.bool Draft.done (fun a d => { d with done := some a }),
    field "prompt_eval_count" (Json.Read.option tokens) Draft.promptTokens
      (fun a d => { d with promptTokens := some a }),
    field "eval_count" (Json.Read.option tokens) Draft.completionTokens
      (fun a d => { d with completionTokens := some a }),
    field "error" (Json.Read.option Json.Read.string) Draft.error
      (fun a d => { d with error := some a })]
  start := ⟨none, none, none, none, none⟩
  finish _ d :=
    let (content, calls) := (d.message.getD none).getD ("", [])
    .ok ⟨content, calls, d.done.getD false, d.promptTokens.getD none, d.completionTokens.getD none,
      d.error.getD none⟩

/-- The chunk that a line is, if it is one. -/
def ofLine? (line : List Char) : Option Chunk :=
  (Json.readText record.read (String.ofList line)).toOption

end Chunk

end ToolAgent
