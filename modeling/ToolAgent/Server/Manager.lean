import ToolAgent.Server.Client
import ToolAgent.Server.Config
import ToolAgent.Server.Name
import ToolAgent.Tool.Basic
import ToolAgent.Tool.BuiltIn

/-!
# The tools on offer

The manager holds a client for each server and the specifications of all tools. It resolves a tool
use of the model to a tool: by name to one of the program's own, and a name with the delimiter in it
to a tool of the server that the part before the delimiter names.
-/

namespace ToolAgent

open Json (Value)

/-- The clients by the names of their servers, and the loaded specifications by name. -/
structure Manager (π : Type) where
  clients : Table (Client π)
  specs : Table ToolSpec

namespace Manager

variable {π : Type}

/-- No servers. -/
def empty : Manager π := ⟨.empty, .empty⟩

/-! ### Servers -/

/-- Registers a client; the name gets ones at its end until it is new. -/
def add (m : Manager π) (name : String) (client : Client π) : String × Manager π :=
  let name := ServerName.fresh m.clients.keys name
  (name, { m with clients := m.clients.insert name client })

/-- The names that servers are stored under, in increasing order. -/
def serverNames (m : Manager π) : List String := m.clients.keys

variable [Peer π]

/-- Starts one server, unless that fails. -/
def startServer (launch : ServerConfig → Except String π) (timeoutSecs : Nat) (name : String)
    (config : ServerConfig) : Option (Client π) :=
  match launch config with
  | .error _ => none
  | .ok peer =>
    let seconds := match config.timeoutSecs with
      | some n => n.toNat
      | none => timeoutSecs
    match (Client.ofPeer name (seconds * 1000) peer).introduce with
    | (.ok _, client) => some client
    | (.error _, _) => none

/-- The servers that are started under the names that they are given; those that fail are left
out. -/
def startServers (launch : ServerConfig → Except String π) (timeoutSecs : Nat)
    (given : List (String × String)) (servers : List (String × ServerConfig)) :
    List (String × Client π) :=
  (given.zip servers).filterMap fun ((_, name), (_, c)) =>
    (startServer launch timeoutSecs name c).map fun client => (name, client)

/-- Starts the servers of a configuration, in the order of their names, under names made by
`nameOf`. -/
def ofConfigBy (nameOf : String → String) (launch : ServerConfig → Except String π)
    (timeoutSecs : Nat) (config : ServerTable) : Manager π :=
  ⟨.ofList (startServers launch timeoutSecs (ServerName.assignBy nameOf config.keys)
    config.entries), .empty⟩

/-- Starts the servers of a configuration, in the order of their names. -/
def ofConfig (launch : ServerConfig → Except String π) (timeoutSecs : Nat) (config : ServerTable) :
    Manager π :=
  ofConfigBy ServerName.sanitize launch timeoutSecs config

/-! ### Loading -/

/-- The name under which the model knows a server's tool. -/
def qualified (server tool : String) : String := server ++ ServerName.delimiter ++ tool

/-- The tools of a server under the names by which the model knows them. -/
def offered (server : String) (tools : List ToolSpec) : List (String × ToolSpec) :=
  tools.map fun t => (qualified server t.name, { t with name := qualified server t.name })

/-- What a server's listing adds: all of its tools, or nothing if the listing fails. -/
def contribution (server : String) : Except Error (List ToolSpec) → List (String × ToolSpec)
  | .ok tools => offered server tools
  | .error _ => []

/-- Lists the tools of each server: the clients afterwards, and the tools. -/
def listServers (pages : Nat) :
    List (String × Client π) → Option (List (String × Client π) × List (String × ToolSpec))
  | [] => some ([], [])
  | (name, client) :: rest =>
    match client.listTools pages, listServers pages rest with
    | (some listing, client), some (clients, tools) =>
      some ((name, client) :: clients, contribution name listing ++ tools)
    | _, _ => none

/-- The program's own tools. -/
def builtInSpecs : Table ToolSpec := .ofList (BuiltIn.specs.map fun s => (s.name, s))

/-- Loads the specifications of all tools; nothing if a server lists more than `pages` pages. -/
def load (pages : Nat) (m : Manager π) : Option (Manager π) :=
  (listServers pages m.clients.entries).map fun (clients, tools) =>
    ⟨clients.foldl (fun t (name, client) => t.insert name client) m.clients,
      tools.foldl (fun t (name, spec) => t.insert name spec) builtInSpecs⟩

/-- The loaded specifications, in the order of their names. -/
def toolSpecs (m : Manager π) : List ToolSpec := m.specs.entries.map (·.2)

/-! ### From a tool use to a tool -/

/-- The failure of a tool use with bad arguments. -/
def refuse (use : ToolUse) (reason : String) : ToolResult :=
  .failure use.id ("Failed to validate tool parameters: " ++ reason)

/-- The arguments that a specification asks for and that are not there. -/
def missingArgs (spec : ToolSpec) (args : Value) : List String :=
  spec.requiredArgs.filter fun k => (args.get? k).isNone

/-- Resolves a tool use with the name of a server's tool. -/
def resolveServerTool (m : Manager π) (use : ToolUse) : Except ToolResult Tool :=
  match Text.cut use.name ServerName.delimiter with
  | none => .error (.failure use.id ("No tool with name " ++ use.name ++ " found"))
  | some (server, tool) =>
    match m.clients.get? server with
    | none => .error (.failure use.id ("No MCP server named " ++ server ++ " found"))
    | some client =>
      let missing := match m.specs.get? use.name with
        | some spec => missingArgs spec use.args
        | none => []
      if missing ≠ [] then
        .error (refuse use ("missing required arguments: " ++ String.intercalate ", " missing))
      else
        .ok (.server ⟨server, client.label, tool, use.name, ServerCall.callMethod,
          if use.args.isNull then none else some use.args⟩)

/-- A tool of the program's own, if the arguments can be read. -/
def builtIn (use : ToolUse) (make : α → Tool) : Except Json.Fault α → Except ToolResult Tool
  | .ok a => .ok (make a)
  | .error fault => .error (refuse use (fault.message []))

/-- The tool that a tool use means, or the result that says why there is none. -/
def resolve (m : Manager π) (use : ToolUse) : Except ToolResult Tool :=
  if use.name = "fs_read" then builtIn use .read (FileRead.ofArgs use.args)
  else if use.name = "fs_write" then builtIn use .write (FileWrite.ofArgs use.args)
  else if use.name = "execute_bash" then builtIn use .command (CommandLine.ofArgs use.args)
  else m.resolveServerTool use

/-! ### Calling a server's tool -/

/-- The texts of a server's answer, one on a line; the answer itself if there are none. -/
def contentText (answer : Value) : String :=
  let blocks := ((answer.get? "content").bind Value.asList?).getD []
  let texts := blocks.filterMap fun b => (b.get? "text").bind Value.asString?
  let joined := String.intercalate "\n" texts
  if joined = "" then answer.text else joined

/-- What a server's answer says of the call. -/
def readAnswer (answer : Value) : Except Error Output :=
  if (answer.get? "isError").bind Value.asBool? = some true then .error (.tool (contentText answer))
  else .ok (.json ((answer.get? "content").getD answer))

/-- Makes a call to a server. -/
def call (m : Manager π) (c : ServerCall) : Except Error Output × Manager π :=
  match m.clients.get? c.server with
  | none => (.error (.tool ("No MCP server named " ++ c.server ++ " found")), m)
  | some client =>
    let (answer, client) := client.request c.method (some c.params)
    (answer.bind readAnswer, { m with clients := m.clients.insert c.server client })

end Manager

end ToolAgent
