import ToolAgent.Error
import ToolAgent.Turn

/-!
# Responses of a model

A response arrives as a stream of events. `collect` drains the stream up to its end into a complete
response and lists the fragments of text as they came; a stream that fails yields its error instead.
-/

namespace ToolAgent

/-- One piece of a response. -/
inductive Event
  | text (s : String)
  | toolUse (use : ToolUse)
  /-- The response is complete. -/
  | endStream (usage : Option TokenUsage)
deriving DecidableEq, Repr

/-- The events of a response, or its failure, in the order of arrival. -/
abbrev EventStream := List (Except Error Event)

/-- A complete response. -/
structure Response where
  text : String
  toolUses : List ToolUse
  usage : Option TokenUsage
deriving DecidableEq, Repr

/-- A response with nothing in it. -/
def Response.empty : Response := ⟨"", [], none⟩

/-- What draining a stream comes to. -/
structure Collected where
  /-- The fragments of text, none of them empty. -/
  fragments : List String
  response : Except Error Response

/-- Drains a stream into the response that has arrived so far. -/
def collectFrom (sofar : Response) : EventStream → Collected
  | [] => ⟨[], .ok sofar⟩
  | .error e :: _ => ⟨[], .error e⟩
  | .ok (.text s) :: rest =>
    if s = "" then collectFrom sofar rest
    else
      let later := collectFrom { sofar with text := sofar.text ++ s } rest
      ⟨s :: later.fragments, later.response⟩
  | .ok (.toolUse use) :: rest =>
    collectFrom { sofar with toolUses := sofar.toolUses ++ [use] } rest
  | .ok (.endStream usage) :: _ => ⟨[], .ok { sofar with usage := usage }⟩

/-- Drains a stream. -/
def collect (stream : EventStream) : Collected := collectFrom .empty stream

/-! ### Requests -/

/-- What the model gets. -/
structure ChatRequest where
  model : String
  messages : List Message
  tools : List ToolSpec
  temperature : Option Binary
deriving DecidableEq, Repr

/-- A model that answers requests. -/
class ChatModel (μ : Type) where
  /-- The kind of model. -/
  name : μ → String
  /-- Answers a request with a stream of events, unless it cannot be sent. -/
  send : μ → ChatRequest → Except Error EventStream × μ
  /-- The models that there are. -/
  models : μ → Except Error (List String) × μ

end ToolAgent
