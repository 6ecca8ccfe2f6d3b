import ToolAgent.Config.Basic
import ToolAgent.Conversation.Basic
import ToolAgent.Session.Surface

/-!
# Sessions

A session holds a conversation and the permissions that the user has given, together with the
workbench, the model and the approver. This module makes the single steps of a session: asking,
sending a request and receiving the response.
-/

namespace ToolAgent

/-- A conversation with a model under way, together with all that it works with: a workbench of
tools, a model, and someone who approves what tools do. -/
structure Session (τ μ α : Type) where
  config : Config
  conversation : Conversation
  permissions : Permissions
  workbench : τ
  model : μ
  approver : α
  /-- What was done so far, the oldest first. -/
  acts : List Act

namespace Session

variable {τ μ α π : Type}

/-- A session over a workbench whose tools are loaded. -/
def start [Workbench τ π] (config : Config) (conversationId : String) (workbench : τ) (model : μ)
    (approver : α) : Session τ μ α :=
  let specs := (Workbench.manager workbench).toolSpecs
  let conversation := Conversation.start conversationId config.conversation.maxExchanges.toNat specs
  { config
    conversation := match config.conversation.systemPrompt with
      | some text => conversation.setSystemPrompt text
      | none => conversation
    permissions := Permissions.ofList config.tools.trustAll config.tools.trusted
    workbench, model, approver
    acts := [] }

/-- Opens a session over a toolbox: loads its tools, and keeps the output of commands as short as
the configuration says; nothing if a server lists more than `pages` pages. -/
def open? [Peer π] (pages : Nat) (config : Config) (conversationId : String) (box : Toolbox π)
    (model : μ) (approver : α) : Option (Session (Toolbox π) μ α) :=
  (box.manager.load pages).map fun manager =>
    start config conversationId
      { box with
        manager
        place := { box.place with maxOutputBytes := config.tools.maxOutputBytes.toNat } }
      model approver

/-- The specifications of the tools that the model may use. -/
def toolSpecs (s : Session τ μ α) : List ToolSpec := s.conversation.tools

/-- Adds to what was done. -/
def note (s : Session τ μ α) (acts : List Act) : Session τ μ α := { s with acts := s.acts ++ acts }

/-- Asks the approver about a tool use. -/
def ask [Approver α] (s : Session τ μ α) (use : ToolUse) (description : String) :
    Approval × Session τ μ α :=
  let (answer, approver) := Approver.ask s.approver use description
  (answer, { s with approver }.note [.asked use description answer])

/-- Runs a tool. -/
def invoke [Workbench τ π] (s : Session τ μ α) (use : ToolUse) (tool : Tool) :
    Except Error Output × Session τ μ α :=
  let (outcome, workbench) := Workbench.invoke s.workbench tool
  (outcome, { s with workbench }.note [.invoked use tool outcome])

/-- A request with these messages. -/
def request (s : Session τ μ α) (messages : List Message) (tools : List ToolSpec) : ChatRequest :=
  ⟨s.config.model.name, messages, tools, s.config.model.temperature⟩

/-- Sends a request and drains the response. -/
def send [ChatModel μ] (s : Session τ μ α) (request : ChatRequest) :
    Except Error Collected × Session τ μ α :=
  let (answer, model) := ChatModel.send s.model request
  (answer.map collect, { s with model }.note [.sent request])

/-- The texts that are shown of a response: its fragments while they arrive, or all of it once it is
complete. -/
def shown (streaming : Bool) (c : Collected) : List String :=
  if streaming then c.fragments
  else match c.response with
    | .ok r => [r.text]
    | .error _ => []

/-- Sends the conversation to the model and shows the response. -/
def converse [ChatModel μ] (s : Session τ μ α) : Except Error Response × Session τ μ α :=
  match s.conversation.sendable with
  | .error e => (.error e, s)
  | .ok messages =>
    match s.send (s.request messages s.conversation.tools) with
    | (.error e, s) => (.error e, s)
    | (.ok c, s) => (c.response, s.note ((shown s.config.streaming c).map .said))

/-- The assistant answers the pending message. -/
def answer (s : Session τ μ α) (message : AssistantMessage) : Except Error (Session τ μ α) :=
  (s.conversation.answer message).map fun conversation => { s with conversation }

/-- Forgets what was said, but not the summary. -/
def clear (s : Session τ μ α) : Session τ μ α :=
  { s with conversation := s.conversation.clear true }

end Session

end ToolAgent
