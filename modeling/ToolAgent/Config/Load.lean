import ToolAgent.Config.Document
import ToolAgent.Config.Dotenv
import ToolAgent.Error

/-!
# Where the configuration comes from

The configuration is read from a file in the user's configuration directory; variables of the
environment go before what the file says.
-/

namespace ToolAgent

/-- What the program is started in: the files, its directory, and the variables of the environment.
-/
structure Surroundings where
  tree : Entry
  cwd : Location
  vars : Variables

namespace Surroundings

/-- A variable of the environment. -/
def setting? (s : Surroundings) (name : String) : Option String := s.vars.lookup name

/-- The user's home directory. -/
def home (s : Surroundings) : String :=
  match s.setting? "HOME" with
  | some h => if h = "" then "/root" else h
  | none => "/root"

/-- The directory of the program's configuration. -/
def configDir (s : Surroundings) : String :=
  let base := match s.setting? "XDG_CONFIG_HOME" with
    | some d => if Path.isAbsolute d then d else Path.join s.home ".config"
    | none => Path.join s.home ".config"
  Path.join base "wingman"

/-- The file of the program's configuration. -/
def configFile (s : Surroundings) : String := Path.join s.configDir "config.toml"

/-- Adds the variables of the nearest `.env` file. -/
def withDotenv (s : Surroundings) : Surroundings :=
  { s with vars := Dotenv.load s.tree s.cwd s.vars }

end Surroundings

namespace Config

/-- Reads the configuration from a file. -/
def ofFile (s : Surroundings) (path : String) : Except Error Config :=
  if !Files.pathExists s.tree s.cwd path then .error (.config ("Config file not found: " ++ path))
  else match Files.readText s.tree s.cwd path with
    | .error e => .error (.config ("Failed to read config: " ++ e.message))
    | .ok text =>
      match ofToml? text with
      | some c => .ok c
      | none =>
        .error (.config "Failed to parse config: the document or a setting in it is not valid")

/-- Reads the configuration from its own place. -/
def ofOwnFile (s : Surroundings) : Except Error Config := ofFile s s.configFile

/-- The number of a port. -/
def port? (text : String) : Option UInt16 :=
  let digits := match text.toList with
    | '+' :: cs => cs
    | cs => cs
  if digits = [] || !digits.all Char.isDigit then none
  else
    let n := digits.foldl (fun n c => n * 10 + (c.toNat - '0'.toNat)) 0
    if n < Nat.pow 2 16 then some (UInt16.ofNat n) else none

/-- Whether a variable says yes. -/
def saysYes (text : String) : Bool := text = "true" || text = "1"

/-- What the variables of the environment say goes before the settings. -/
def withVariables (s : Surroundings) (c : Config) : Config where
  model := { c.model with
    host := (s.setting? "WINGMAN_HOST").getD c.model.host
    port := ((s.setting? "WINGMAN_PORT").bind port?).getD c.model.port
    name := (s.setting? "WINGMAN_MODEL").getD c.model.name }
  conversation := c.conversation
  tools := { c.tools with
    trustAll := ((s.setting? "WINGMAN_TRUST_ALL_TOOLS").map saysYes).getD c.tools.trustAll }
  servers := c.servers
  streaming := ((s.setting? "WINGMAN_STREAMING").map saysYes).getD c.streaming
  logLevel := c.logLevel

/-- The configuration of a program that is started: the file, if it can be read, and the variables.
-/
def load (s : Surroundings) : Config × Surroundings :=
  let s := s.withDotenv
  ((ofOwnFile s).toOption.getD standard |>.withVariables s, s)

/-- Writes the configuration to a file: the outcome, and the files after it. -/
def saveTo (c : Config) (s : Surroundings) (path : String) : Except Error Unit × Entry :=
  let made := match Path.parent? path with
    | some parent => Files.makeDirs s.tree s.cwd parent
    | none => (.ok (), s.tree)
  match made with
  | (.error e, tree) => (.error (.config ("Failed to create config dir: " ++ e.message)), tree)
  | (.ok (), tree) =>
    match c.toToml with
    | .error () =>
      (.error (.config "Failed to serialize config: out-of-range value for u64 type"), tree)
    | .ok text =>
      match Files.writeBytes tree s.cwd path (Utf8.ofString text) with
      | .error e => (.error (.config ("Failed to write config: " ++ e.message)), tree)
      | .ok tree => (.ok (), tree)

/-- Writes the configuration to its own place. -/
def save (c : Config) (s : Surroundings) : Except Error Unit × Entry := c.saveTo s s.configFile

end Config

end ToolAgent
