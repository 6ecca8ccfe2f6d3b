/-!
# Errors

What can go wrong outside a tool's own answer, and the words for it.
-/

namespace ToolAgent

/-- An error, by the part of the program that it concerns. -/
inductive Error
  /-- The connection to the model, or its stream. -/
  | transport (text : String)
  /-- The backend does not have this model. -/
  | modelNotFound (model : String)
  /-- A tool's arguments, or its work. -/
  | tool (text : String)
  /-- A tool server. -/
  | server (text : String)
  /-- The configuration. -/
  | config (text : String)
  /-- The conversation was used out of order. -/
  | conversation (text : String)
  /-- A JSON text or value did not fit. -/
  | json (text : String)
  /-- A request over HTTP. -/
  | http (text : String)
  /-- Files and streams. -/
  | io (text : String)
  /-- The user interrupted. -/
  | interrupted
  /-- What was being done, and what went wrong. -/
  | inContext (context source : String)
  | other (text : String)
deriving DecidableEq, Repr, Inhabited

/-- The words for an error. -/
def Error.message : Error → String
  | .transport text => String.join ["Transport error: ", text]
  | .modelNotFound model =>
    String.join ["Model '", model, "' is not available on the model backend"]
  | .tool text => String.join ["Tool error: ", text]
  | .server text => String.join ["MCP error: ", text]
  | .config text => String.join ["Configuration error: ", text]
  | .conversation text => String.join ["Conversation error: ", text]
  | .json text => String.join ["JSON error: ", text]
  | .http text => String.join ["HTTP error: ", text]
  | .io text => String.join ["IO error: ", text]
  | .interrupted => "Interrupted"
  | .inContext context source => String.join [context, ": ", source]
  | .other text => text

end ToolAgent
