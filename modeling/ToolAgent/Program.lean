import ToolAgent.Config.Load
import ToolAgent.Log.Filter
import ToolAgent.Model.Backend
import ToolAgent.Repl.Loop
import ToolAgent.Server.ConfigFile

/-!
# The program as a whole

The program reads its configuration, looks whether the model's backend can be reached, starts the
tool servers, and talks to the user until the input ends.
-/

namespace ToolAgent

/-- What a run of the program comes to. -/
structure Ending where
  exitCode : Nat
  printed : List Printed
  /-- The files at the end. -/
  tree : Entry

namespace Program

/-- How an error is reported that ends the program: with what caused it, if that is told apart. -/
def report : Error → List Printed
  | .io text =>
    [.err (String.join ["Error: ", (Error.io text).message, "\n\nCaused by:\n    ", text, "\n"])]
  | e => [.err (String.join ["Error: ", e.message, "\n"])]

/-- What is said if the backend cannot be reached. -/
def unreachable (config : Config) (e : Error) : List Printed :=
  [.err (String.join ["Could not reach the model backend at ", config.modelUrl, ": ", e.message,
    "\nIs Ollama running?\n"])]

/-- Which messages are logged: what the environment says goes before the configured level. -/
def logFilter (s : Surroundings) (level : String) : Log.Filter :=
  Log.Filter.choose (s.setting? "WINGMAN_LOG") level

/-- The servers that the configuration asks for. -/
def servers (s : Surroundings) (config : Config) : Except Error ServerTable :=
  if config.servers.enabled then
    ServerTable.load s.tree s.cwd (config.globalServers s.home) config.workspaceServers
  else .ok .empty

/-- Where the program's tools work. -/
def workplace (s : Surroundings) (config : Config) : Workplace where
  cwd := "/" ++ String.intercalate "/" s.cwd
  home := s.home
  maxOutputBytes := config.tools.maxOutputBytes.toNat
  base := s.cwd

variable {ν π : Type} [Http.Network ν] [Peer π]

/-- The dialogue over a backend that can be reached; nothing if a server lists more than `pages`
pages of tools. -/
def talk (pages : Nat) (s : Surroundings) (config : Config) (backend : Backend ν)
    (launch : ServerConfig → Except String π) (conversationId : String) (input : Bytes) :
      Option Ending :=
  match servers s config with
  | .error e => some ⟨1, report e, s.tree⟩
  | .ok table =>
    let manager := Manager.ofConfig launch config.servers.timeoutSecs.toNat table
    let box : Toolbox π := ⟨workplace s config, s.tree, manager⟩
    let terminal := Terminal.ofBytes input
    (Session.open? pages config conversationId box backend terminal).map fun session =>
      let (printed, session) := Repl.run session
      ⟨0, printed, session.workbench.tree⟩

/-- A run of the program with this input; nothing if a server lists more than `pages` pages of
tools. -/
def run (pages : Nat) (s : Surroundings) (network : ν) (launch : ServerConfig → Except String π)
    (conversationId : String) (input : Bytes) : Option Ending :=
  let (config, s) := Config.load s
  let backend : Backend ν := ⟨config.modelUrl, network⟩
  match backend.models with
  | (.error e, _) => some ⟨0, unreachable config e, s.tree⟩
  | (.ok _, backend) => talk pages s config backend launch conversationId input

end Program

end ToolAgent
