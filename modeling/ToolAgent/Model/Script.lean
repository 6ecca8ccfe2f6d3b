import ToolAgent.Model.Response

/-!
# A model that follows a script

A scripted model answers each request with the next response of its script, and with an empty text
once the script has run out.
-/

namespace ToolAgent

/-- A response to play back. -/
inductive ScriptedResponse
  | text (text : String)
  /-- A text, and tool uses after it. -/
  | toolUses (text : String) (uses : List ToolUse)
  /-- Events as they are; the end is added where it is missing. -/
  | events (events : List Event)
  /-- A text, and then a failure of the stream. -/
  | streamError (text error : String)
deriving DecidableEq, Repr

/-- The events with an end. -/
def EventStream.ended (es : List Event) : EventStream :=
  match es.getLast? with
  | some (.endStream _) => es.map .ok
  | _ => (es ++ [Event.endStream none]).map .ok

/-- The events by which a response arrives. -/
def ScriptedResponse.stream : ScriptedResponse → EventStream
  | .text s => .ended [.text s]
  | .toolUses s uses => .ended (.text s :: uses.map .toolUse)
  | .events es => .ended es
  | .streamError s e => [.ok (.text s), .error (.transport e)]

/-- The responses that are left to play. -/
abbrev ModelScript := List ScriptedResponse

namespace ModelScript

/-- What the scripted model is called. -/
def name : String := "mock"

/-- The models that a scripted backend has. -/
def models : List String := ["mock"]

/-- The next response, and the script after it. -/
def next : ModelScript → EventStream × ModelScript
  | [] => (.ended [.text ""], [])
  | r :: rest => (r.stream, rest)

end ModelScript

instance : ChatModel ModelScript where
  name _ := ModelScript.name
  send script _ :=
    let (stream, rest) := script.next
    (.ok stream, rest)
  models script := (.ok ModelScript.models, script)

end ToolAgent
