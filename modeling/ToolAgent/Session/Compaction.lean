import ToolAgent.Session.Basic

/-!
# Compaction

The model is asked for a summary of the conversation, which then stands for the history.
-/

namespace ToolAgent

/-- What the model is asked for. -/
def compactionPrompt : String :=
  String.join [
    "Summarize the conversation so far. Keep the user's goals, decisions that were made, file ",
    "paths, commands and their results, and any open tasks. Write it so the conversation can ",
    "continue from the summary alone."]

/-- What the model is while it does that. -/
def compactionSystemPrompt : String :=
  "You write concise, factual summaries of conversations between a user and an assistant."

namespace Session

variable {τ μ α : Type} [ChatModel μ]

/-- The request for a summary. -/
def compactionRequest (s : Session τ μ α) : ChatRequest :=
  s.request (.system compactionSystemPrompt :: s.conversation.compaction compactionPrompt) []

/-- Puts a summary in the place of the history: the summary, or nothing if there is no history. -/
def compact (s : Session τ μ α) : Except Error (Option String) × Session τ μ α :=
  if s.conversation.history = [] then (.ok none, s)
  else
    let (answer, s) := s.send s.compactionRequest
    match answer.bind (·.response) with
    | .error e => (.error e, s)
    | .ok r =>
      let summary := Text.trim r.text
      if summary = "" then (.error (.conversation "model returned an empty summary"), s)
      else (.ok (some summary), { s with conversation := s.conversation.compact summary })

end Session

end ToolAgent
