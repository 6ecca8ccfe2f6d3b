import ToolAgent.Identity
import ToolAgent.Session.Compaction
import ToolAgent.Text.Case

/-!
# Commands of the user

A line that starts with a slash is a command for the session, not a message to the model.
-/

namespace ToolAgent

/-- What is done about tools. -/
inductive ToolsCommand
  | list
  | trust (name : String)
  | untrust (name : String)
  | trustAll
  | reset
  /-- A name is missing after this word. -/
  | incomplete (word : String)
  | unknown (word : String)
deriving DecidableEq, Repr

/-- What a line that begins with a slash asks for. -/
inductive Command
  | quit
  | clear
  | help
  | compact
  | tools (c : ToolsCommand)
  | models
  | status
  | unknown (word : String)
deriving DecidableEq, Repr

/-- The first word in lower case, and what follows the first space. -/
def splitWord (text : String) : String × String :=
  match Text.cut text " " with
  | some (word, rest) => (Text.Case.lower word, Text.trim rest)
  | none => (Text.Case.lower text, "")

namespace ToolsCommand

/-- The command about tools in what follows its name. -/
def ofText (text : String) : ToolsCommand :=
  let (word, name) := splitWord text
  if word = "" then .list
  else if word = "trust" then if name = "" then .incomplete word else .trust name
  else if word = "untrust" then if name = "" then .incomplete word else .untrust name
  else if word = "trustall" then .trustAll
  else if word = "reset" then .reset
  else .unknown word

end ToolsCommand

namespace Command

/-- The command after the slash. -/
def ofText (text : String) : Command :=
  let (word, args) := splitWord text
  if word = "quit" || word = "exit" || word = "q" then .quit
  else if word = "clear" then .clear
  else if word = "help" || word = "?" then .help
  else if word = "compact" then .compact
  else if word = "tools" then .tools (.ofText args)
  else if word = "models" then .models
  else if word = "status" then .status
  else .unknown word

/-- The command that a line is, if it is one. -/
def ofLine? (line : String) : Option Command := (Text.dropStart? (Text.trim line) "/").map ofText

end Command

/-- What comes of a line. -/
inductive Reply
  /-- The line is no command, but a message to the model. -/
  | message (text : String)
  /-- The command was carried out and has this to say. -/
  | done (text : String)
  | exit
  | cleared
deriving DecidableEq, Repr

/-! ### Texts -/

/-- A line of `n` dashes. -/
def dashes (n : Nat) : String := String.ofList (List.replicate n '─')

/-- The list of commands. -/
def helpText : String :=
  String.intercalate "\n" [
    programTitle ++ " Commands:",
    dashes 45,
    "  /help                  Show this help message",
    "  /quit                  Exit " ++ programTitle,
    "  /clear                 Clear conversation history",
    "  /compact               Summarize history to save context",
    "  /status                Show current configuration",
    "  /models                List models on the backend",
    "",
    "  /tools                 List tools and their permissions",
    "  /tools trust <name>    Run a tool without asking",
    "  /tools untrust <name>  Ask before running a tool",
    "  /tools trustall        Run every tool without asking",
    "  /tools reset           Restore default permissions",
    "",
    "When a tool needs approval, answer y (yes), n (no) or t (trust).",
    dashes 45]

/-- A text with spaces after it, at least `width` characters long. -/
def padded (width : Nat) (text : String) : String := text ++ Text.times (width - text.length) " "

namespace Session

variable {τ μ α : Type}

/-- The tools and whether they are trusted. -/
def toolsText (s : Session τ μ α) : String :=
  let line (spec : ToolSpec) : String :=
    "  " ++ padded 32 spec.name ++ " "
      ++ (if s.permissions.isTrusted spec.name then "trusted" else "per-request") ++ "\n"
  "Tools:\n" ++ String.join (s.toolSpecs.map line) ++ "\nRead-only commands and fs_read never ask."

/-- Changes permissions as the user says: what there is to say about it. -/
def runToolsCommand (s : Session τ μ α) : ToolsCommand → String × Session τ μ α
  | .list => (s.toolsText, s)
  | .incomplete word => (String.join ["Usage: /tools ", word, " <name>"], s)
  | .trust name =>
    if s.toolSpecs.any (·.name == name) then
      (String.join [name, " will run without asking."],
        { s with permissions := s.permissions.trust name })
    else (String.join ["No tool named ", name], s)
  | .untrust name =>
    (String.join [name, " will ask before running."],
      { s with permissions := s.permissions.untrust name })
  | .trustAll =>
    ("All tools will run without asking.", { s with permissions := s.permissions.trustEvery })
  | .reset => ("Tool permissions reset to defaults.", { s with permissions := .none })
  | .unknown word =>
    (String.join ["Unknown tools subcommand: ", word,
        ". Available: trust, untrust, trustall, reset"], s)

variable [ChatModel μ]

/-- How the session stands. -/
def statusText (s : Session τ μ α) : String :=
  String.intercalate "\n" [
    programTitle ++ " Status:",
    dashes 29,
    "Model:        " ++ s.config.model.name ++ " (" ++ ChatModel.name s.model ++ ")",
    "Endpoint:     " ++ s.config.modelUrl,
    "Conversation: " ++ s.conversation.id,
    "History:      " ++ toString s.conversation.history.length ++ " / "
      ++ toString s.config.conversation.maxExchanges.toNat ++ " exchanges",
    "Summary:      " ++ (if s.conversation.summary.isSome then "yes" else "no"),
    "Tools:        " ++ toString s.toolSpecs.length,
    "Streaming:    " ++ (if s.config.streaming then "on" else "off")]

/-- The models that there are, and the one in use. -/
def modelsText (s : Session τ μ α) (models : List String) : String :=
  String.join ["Available models:\n", String.intercalate "\n" (models.map ("  - " ++ ·)),
    "\n\nCurrent: ", s.config.model.name]

/-- Carries out a command. -/
def runCommand (s : Session τ μ α) : Command → Except Error Reply × Session τ μ α
  | .quit => (.ok .exit, s)
  | .clear => (.ok .cleared, s.clear)
  | .help => (.ok (.done helpText), s)
  | .compact =>
    match s.compact with
    | (.error e, s) => (.error e, s)
    | (.ok (some summary), s) => (.ok (.done ("Conversation compacted. Summary:\n" ++ summary)), s)
    | (.ok none, s) => (.ok (.done "Nothing to compact yet."), s)
  | .tools c =>
    let (text, s) := s.runToolsCommand c
    (.ok (.done text), s)
  | .models =>
    let (models, model) := ChatModel.models s.model
    (models.map fun ms => .done (s.modelsText ms), { s with model })
  | .status => (.ok (.done s.statusText), s)
  | .unknown word =>
    (.ok (.done ("Unknown command: /" ++ word ++ ". Type /help for available commands.")), s)

/-- Handles a line: carries out a command, and passes anything else on without the blanks around it.
-/
def handleLine (s : Session τ μ α) (line : String) : Except Error Reply × Session τ μ α :=
  match Command.ofLine? line with
  | some c => s.runCommand c
  | none => (.ok (.message (Text.trim line)), s)

end Session

end ToolAgent
