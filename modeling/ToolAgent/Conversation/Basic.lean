import ToolAgent.Error
import ToolAgent.Message.Basic

/-!
# The conversation

A conversation is a history of complete exchanges, the user's message that the assistant has not
answered yet, and what stands beside them: a system prompt, a summary of what went before, context
files, and the tools on offer.

The history is kept to a number of exchanges. Exchanges go in *blocks*: one that the user opens
with a prompt, and those after it that carry tool results. Only whole blocks are dropped, the
oldest first, and the newest block always stays; so a tool result never loses the call that it
answers.
-/

namespace ToolAgent

/-- What stands in for a prompt with nothing but blanks. -/
def emptyPrompt : String := "Empty prompt"

/-- The result of a tool use that the user declined. -/
def cancelledText : String := "Tool use was cancelled by the user"

/-- A message of the user. -/
inductive UserMessage
  /-- A typed prompt. -/
  | prompt (text : String)
  /-- The results of the tool uses of the assistant's message before. -/
  | results (results : List ToolResult)
  /-- The tool uses of the assistant's message before are declined, and something is said instead.
  -/
  | cancelled (text : String) (results : List ToolResult)
deriving DecidableEq, Repr

namespace UserMessage

/-- A prompt, never blank. -/
def ofPrompt (text : String) : UserMessage :=
  .prompt (if Text.isBlankText text then emptyPrompt else text)

/-- Declines the tool uses with these ids. -/
def cancel (text : Option String) (useIds : List String) : UserMessage :=
  .cancelled (text.getD cancelledText) (useIds.map (ToolResult.failure · cancelledText))

/-- What the user said, if anything. -/
def said? : UserMessage → Option String
  | .prompt text => some text
  | .results _ => none
  | .cancelled text _ => some text

/-- The tool results that the message carries. -/
def toolResults : UserMessage → List ToolResult
  | .prompt _ => []
  | .results rs => rs
  | .cancelled _ rs => rs

/-- The ids of the tool uses that the message answers. -/
def answered (u : UserMessage) : List String := u.toolResults.map (·.useId)

/-- Whether the message answers tool uses. -/
def hasResults (u : UserMessage) : Bool := !u.toolResults.isEmpty

/-- The message as it is sent, behind the given context. -/
def toMessage (context : Option String) (u : UserMessage) : Message :=
  let lead := match context with
    | some text => text ++ "\n\n"
    | none => ""
  .user (lead ++ u.said?.getD "") u.toolResults

end UserMessage

/-- A message of the assistant. -/
inductive AssistantMessage
  /-- A plain answer. -/
  | response (id : Option String) (content : String)
  /-- An answer that asks for tools. -/
  | toolRequest (id : Option String) (content : String) (uses : List ToolUse)
deriving DecidableEq, Repr

namespace AssistantMessage

/-- The id that the message was received under, if it has one. -/
def id : AssistantMessage → Option String
  | .response id _ => id
  | .toolRequest id _ _ => id

/-- The text of the message. -/
def content : AssistantMessage → String
  | .response _ content => content
  | .toolRequest _ content _ => content

/-- The tool uses that the message proposes. -/
def toolUses : AssistantMessage → List ToolUse
  | .response _ _ => []
  | .toolRequest _ _ uses => uses

/-- The ids of the tool uses that the message proposes. -/
def asked (a : AssistantMessage) : List String := a.toolUses.map (·.id)

/-- The message as it is sent back to the model. -/
def toMessage (a : AssistantMessage) : Message := .assistant a.content a.toolUses

end AssistantMessage

/-- A message of the user and the assistant's answer. -/
structure Exchange where
  user : UserMessage
  assistant : AssistantMessage
deriving DecidableEq, Repr

/-- The two messages of an exchange. -/
def Exchange.messages (e : Exchange) : List Message :=
  [e.user.toMessage none, e.assistant.toMessage]

/-- A piece of context with a name. -/
structure ContextFile where
  name : String
  content : String
deriving DecidableEq, Repr

/-- The conversation. -/
structure Conversation where
  id : String
  /-- Complete exchanges, the oldest first. -/
  history : List Exchange
  /-- The user's message that awaits an answer. -/
  pending : Option UserMessage
  /-- How many exchanges are kept. -/
  bound : Nat
  summary : Option String
  contextFiles : List ContextFile
  systemPrompt : Option String
  tools : List ToolSpec
deriving DecidableEq, Repr

namespace Conversation

/-- A conversation with nothing said; at least one exchange is kept. -/
def start (id : String) (bound : Nat) (tools : List ToolSpec) : Conversation :=
  ⟨id, [], none, max bound 1, none, [], none, tools⟩

/-- The tool uses of the last message of the assistant. -/
def lastUses (c : Conversation) : List ToolUse :=
  match c.history.getLast? with
  | some e => e.assistant.toolUses
  | none => []

/-! ### The user's side -/

/-- The user says something. Tool uses that wait for results are declined by that. -/
def say (c : Conversation) (text : String) : Conversation :=
  { c with pending := some <|
      if c.lastUses = [] then .ofPrompt text
      else .cancel (some text) (c.lastUses.map (·.id)) }

/-- Stages the results of the last tool uses. -/
def addResults (c : Conversation) (results : List ToolResult) : Conversation :=
  { c with pending := some (.results results) }

/-- Declines these tool uses. -/
def abandon (c : Conversation) (uses : List ToolUse) (text : Option String) : Conversation :=
  { c with pending := some (.cancel text (uses.map (·.id))) }

/-! ### The assistant's side -/

/-- The history from the second block on. -/
def dropBlock? : List Exchange → Option (List Exchange)
  | [] => none
  | _ :: rest =>
    match rest.dropWhile (·.user.hasResults) with
    | [] => none
    | later => some later

theorem length_of_dropBlock? {history later : List Exchange} (h : dropBlock? history = some later) :
    later.length < history.length := by
  cases history with
  | nil => simp [dropBlock?] at h
  | cons e rest =>
    have := (List.dropWhile_sublist (fun e : Exchange => e.user.hasResults) (l := rest)).length_le
    simp only [dropBlock?] at h
    split at h
    · simp at h
    · next later' hl =>
      obtain rfl := Option.some.inj h
      simp only [List.length_cons]
      omega

/-- Drops the oldest blocks until at most `bound` exchanges are left, or one block. -/
def prune (bound : Nat) (history : List Exchange) : List Exchange :=
  if history.length ≤ bound then history
  else match h : dropBlock? history with
    | none => history
    | some later => prune bound later
termination_by history.length
decreasing_by exact length_of_dropBlock? h

/-- The assistant answers the pending message. -/
def answer (c : Conversation) (message : AssistantMessage) : Except Error Conversation :=
  match c.pending with
  | none => .error (.conversation "assistant message pushed without a pending user message")
  | some user =>
    .ok { c with history := prune c.bound (c.history ++ [⟨user, message⟩]), pending := none }

/-! ### Beside the history -/

/-- The conversation with this system prompt in place of the one before. -/
def setSystemPrompt (c : Conversation) (text : String) : Conversation :=
  { c with systemPrompt := some text }

/-- The conversation with this summary of what came earlier. -/
def setSummary (c : Conversation) (text : String) : Conversation := { c with summary := some text }

/-- Puts a summary in the place of the history. -/
def compact (c : Conversation) (text : String) : Conversation :=
  { c with summary := some text, history := [] }

/-- Forgets what was said. -/
def clear (c : Conversation) (keepSummary : Bool) : Conversation :=
  { c with history := [], pending := none, summary := if keepSummary then c.summary else none }

/-- The files with the content of `name` set; a new file goes last. -/
def putFile (name content : String) : List ContextFile → List ContextFile
  | [] => [⟨name, content⟩]
  | f :: rest => if f.name = name then ⟨name, content⟩ :: rest else f :: putFile name content rest

/-- Shows the model a file, in place of one of the same name if there is one. -/
def addContextFile (c : Conversation) (name content : String) : Conversation :=
  { c with contextFiles := putFile name content c.contextFiles }

/-- Shows the model no files any more. -/
def clearContextFiles (c : Conversation) : Conversation := { c with contextFiles := [] }

/-- The conversation with these tools on offer. -/
def setTools (c : Conversation) (tools : List ToolSpec) : Conversation := { c with tools := tools }

/-! ### What is sent -/

/-- The context files as one text, if there are any. -/
def renderContext (c : Conversation) : Option String :=
  if c.contextFiles = [] then none
  else some ("--- CONTEXT FILES BEGIN ---\n"
    ++ String.join (c.contextFiles.map fun f => "[" ++ f.name ++ "]\n" ++ f.content ++ "\n")
    ++ "--- CONTEXT FILES END ---")

/-- The messages of the history. -/
def historyMessages (c : Conversation) : List Message := c.history.flatMap Exchange.messages

/-- What the model is told about the time before the history. -/
def summaryMessages (c : Conversation) (lead reply : String) : List Message :=
  match c.summary with
  | none => []
  | some text => [.user (lead ++ "\n\n" ++ text) [], .assistant reply []]

/-- The messages for the pending message, the oldest first. -/
def sendable (c : Conversation) : Except Error (List Message) :=
  match c.pending with
  | none => .error (.conversation "no pending user message to send")
  | some next =>
    .ok ((c.systemPrompt.map Message.system).toList
      ++ c.summaryMessages
        ("Here is a summary of our earlier conversation. Use it as context for the rest of this "
          ++ "session:")
        "Understood. I'll use that summary as context."
      ++ c.historyMessages
      ++ [next.toMessage (if next.said?.isSome then c.renderContext else none)])

/-- The messages that ask for a summary of the history. -/
def compaction (c : Conversation) (instruction : String) : List Message :=
  c.summaryMessages "Summary of the conversation before this point:" "Noted."
    ++ c.historyMessages
    ++ [.user instruction []]

end Conversation

end ToolAgent
