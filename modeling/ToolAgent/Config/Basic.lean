import ToolAgent.Files.Path
import ToolAgent.Json.Value
import ToolAgent.Number.Binary

/-!
# The configuration

The settings of the program with their defaults, and the reading of them from structured values. A
table of settings may be written with its keys or as a list in the order of the settings; what is
missing has its default, and what is not known is ignored.
-/

namespace ToolAgent

open Json (Value)

/-- The model and where it is. -/
structure ModelSettings where
  host : String
  port : UInt16
  timeoutSecs : UInt64
  name : String
  temperature : Option Binary
deriving DecidableEq

/-- What is remembered of a conversation. -/
structure ConversationSettings where
  /-- How many exchanges are kept. -/
  maxExchanges : UInt64
  systemPrompt : Option String
deriving DecidableEq

/-- What tools may do. -/
structure ToolSettings where
  /-- Asks for no consent at all. -/
  trustAll : Bool
  /-- Tools that need no consent. -/
  trusted : List String
  /-- How many rounds of tools a turn may have. -/
  maxRounds : UInt64
  /-- How many bytes of a command's output are kept. -/
  maxOutputBytes : UInt64
deriving DecidableEq

/-- Which servers are started, and how. -/
structure ServerSettings where
  enabled : Bool
  globalConfig : Option String
  workspaceConfig : Option String
  /-- How many servers start at a time. -/
  concurrency : UInt64
  timeoutSecs : UInt64
deriving DecidableEq

/-- All settings of the program. -/
structure Config where
  model : ModelSettings
  conversation : ConversationSettings
  tools : ToolSettings
  servers : ServerSettings
  /-- Whether a response is shown while it arrives. -/
  streaming : Bool
  /-- Which messages are logged. -/
  logLevel : String
deriving DecidableEq

namespace Config

/-- The settings if nothing else is said. -/
def standard : Config where
  model := ⟨"localhost", 11434, 120, "qwen3:8b", none⟩
  conversation := ⟨100, none⟩
  tools := ⟨false, [], 25, 102400⟩
  servers := ⟨true, none, none, 10, 120⟩
  streaming := true
  logLevel := "warn"

/-- Whether two configurations say the same: zeros are equal whatever their signs, and what is not a
number equals nothing. -/
def agrees (c d : Config) : Bool :=
  let same := match c.model.temperature, d.model.temperature with
    | none, none => true
    | some x, some y => x.sameValue y
    | _, _ => false
  let bare (c : Config) : Config := { c with model := { c.model with temperature := none } }
  same && bare c = bare d

/-- Where the model is reached. -/
def modelUrl (c : Config) : String :=
  "http://" ++ c.model.host ++ ":" ++ toString c.model.port.toNat

/-- The list of servers for all places. -/
def globalServers (home : String) (c : Config) : String :=
  c.servers.globalConfig.getD (Path.join (Path.join home ".wingman") "mcp.json")

/-- The list of servers for this place. -/
def workspaceServers (c : Config) : String :=
  c.servers.workspaceConfig.getD (Path.join ".wingman" "mcp.json")

/-! ### From values -/

/-- The values of some settings: by name in an object, by place in a list. -/
def fieldsOf (names : List String) : Value → Option (List (Option Value))
  | .object ms => some (names.map (Entries.find? · ms))
  | .list vs => some ((List.range names.length).map (vs[·]?))
  | _ => none

/-- A setting that is there, read; or the default. -/
def orDefault (read : Value → Option α) (dflt : α) : Option Value → Option α
  | none => some dflt
  | some v => read v

/-- A whole number below `bound`. -/
def natural (bound : Nat) : Value → Option Nat
  | .number (.int n) => if 0 ≤ n && n < bound then some n.toNat else none
  | _ => none

/-- A whole number of 16 bits. -/
def word16 (v : Value) : Option UInt16 := (natural (Nat.pow 2 16) v).map UInt16.ofNat

/-- A whole number of 64 bits. -/
def word64 (v : Value) : Option UInt64 := (natural (Nat.pow 2 64) v).map UInt64.ofNat

/-- Any number, as one of 32 bits. -/
def single : Value → Option Binary
  | .number (.int n) => some (Binary.single.roundBinary (decide (n < 0)) n.natAbs 0)
  | .number (.real x) => some (Binary.single.fit x)
  | _ => none

/-- Something or nothing. -/
def maybe (read : Value → Option α) : Value → Option (Option α)
  | .null => some none
  | v => (read v).map some

/-- A list of texts. -/
def strings : Value → Option (List String)
  | .list vs => vs.mapM Value.asString?
  | _ => none

/-- Reads the settings of the model. -/
def readModel (v : Value) : Option ModelSettings := do
  let d := standard.model
  match ← fieldsOf ["host", "port", "timeout_secs", "name", "temperature"] v with
  | [host, port, timeout, name, temperature] =>
    return ⟨← orDefault Value.asString? d.host host, ← orDefault word16 d.port port,
      ← orDefault word64 d.timeoutSecs timeout, ← orDefault Value.asString? d.name name,
      ← orDefault (maybe single) d.temperature temperature⟩
  | _ => none

/-- Reads the settings of the conversation. -/
def readConversation (v : Value) : Option ConversationSettings := do
  let d := standard.conversation
  match ← fieldsOf ["max_history_pairs", "system_prompt"] v with
  | [bound, prompt] =>
    return ⟨← orDefault word64 d.maxExchanges bound,
      ← orDefault (maybe Value.asString?) d.systemPrompt prompt⟩
  | _ => none

/-- Reads the settings of the tools. -/
def readTools (v : Value) : Option ToolSettings := do
  let d := standard.tools
  match ← fieldsOf ["trust_all", "trusted", "max_tool_rounds", "max_output_bytes"] v with
  | [trustAll, trusted, rounds, bytes] =>
    return ⟨← orDefault Value.asBool? d.trustAll trustAll, ← orDefault strings d.trusted trusted,
      ← orDefault word64 d.maxRounds rounds, ← orDefault word64 d.maxOutputBytes bytes⟩
  | _ => none

/-- Reads the settings of the servers. -/
def readServers (v : Value) : Option ServerSettings := do
  let d := standard.servers
  match ← fieldsOf
      ["enabled", "global_config", "workspace_config", "init_concurrency",
        "request_timeout_secs"] v with
  | [enabled, globalConfig, workspaceConfig, concurrency, timeout] =>
    return ⟨← orDefault Value.asBool? d.enabled enabled,
      ← orDefault (maybe Value.asString?) d.globalConfig globalConfig,
      ← orDefault (maybe Value.asString?) d.workspaceConfig workspaceConfig,
      ← orDefault word64 d.concurrency concurrency, ← orDefault word64 d.timeoutSecs timeout⟩
  | _ => none

/-- Reads whether responses are shown while they arrive. -/
def readStreaming (v : Value) : Option Bool := do
  match ← fieldsOf ["enabled"] v with
  | [enabled] => orDefault Value.asBool? standard.streaming enabled
  | _ => none

/-- Reads which messages are logged. -/
def readLogging (v : Value) : Option String := do
  match ← fieldsOf ["level"] v with
  | [level] => orDefault Value.asString? standard.logLevel level
  | _ => none

/-- Reads a configuration; nothing if a setting does not fit. -/
def ofJson? (v : Value) : Option Config := do
  let d := standard
  match ← fieldsOf ["model", "conversation", "tools", "mcp", "streaming", "logging"] v with
  | [model, conversation, tools, servers, streaming, logging] =>
    return ⟨← orDefault readModel d.model model,
      ← orDefault readConversation d.conversation conversation, ← orDefault readTools d.tools tools,
      ← orDefault readServers d.servers servers, ← orDefault readStreaming d.streaming streaming,
      ← orDefault readLogging d.logLevel logging⟩
  | _ => none

end Config

end ToolAgent
