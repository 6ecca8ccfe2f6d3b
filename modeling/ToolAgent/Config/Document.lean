import ToolAgent.Config.Basic
import ToolAgent.Toml.Document
import ToolAgent.Toml.Printer

/-!
# Configurations as TOML documents
-/

namespace ToolAgent.Config

open Json (Value)

/-! ### Reading -/

mutual

/-- A TOML value as a structured value; a moment is an object without known members. -/
def plain : Toml.Value → Value
  | .string s => .string s
  | .integer n => .number (.int n)
  | .float x => .number (.real x)
  | .bool b => .bool b
  | .moment text => .object [("$moment", .string text)]
  | .list vs => .list (plainItems vs)
  | .table ms => .ofMembers (plainMembers ms)

/-- The items of a list as plain values. -/
def plainItems : List Toml.Value → List Value
  | [] => []
  | v :: vs => plain v :: plainItems vs

/-- The members of a table with plain values. -/
def plainMembers : List (String × Toml.Value) → List (String × Value)
  | [] => []
  | (k, v) :: ms => (k, plain v) :: plainMembers ms

end

/-- Reads a configuration from a document. -/
def ofToml? (text : String) : Option Config := (Toml.parse text).bind fun v => ofJson? (plain v)

/-! ### Writing -/

/-- The largest whole number that a document can hold. -/
def maxInteger : Nat := Nat.pow 2 63 - 1

/-- A number's text, if a document can hold it. -/
def numberText (n : UInt64) : Except Unit String :=
  if n.toNat ≤ maxInteger then .ok (toString n.toNat) else .error ()

/-- The setting of something that may be missing. -/
def optional (key : String) (text : α → String) : Option α → List String
  | some a => [Toml.setting key (text a)]
  | none => []

/-- The configuration as a document; an error if a number is too large for one. -/
def toToml (c : Config) : Except Unit String := do
  let timeout ← numberText c.model.timeoutSecs
  let bound ← numberText c.conversation.maxExchanges
  let rounds ← numberText c.tools.maxRounds
  let bytes ← numberText c.tools.maxOutputBytes
  let concurrency ← numberText c.servers.concurrency
  let patience ← numberText c.servers.timeoutSecs
  return String.intercalate "\n" [
    Toml.tableText "model" ([
      Toml.setting "host" (Toml.stringText c.model.host),
      Toml.setting "port" (toString c.model.port.toNat),
      Toml.setting "timeout_secs" timeout,
      Toml.setting "name" (Toml.stringText c.model.name)]
      ++ optional "temperature" Toml.floatText c.model.temperature),
    Toml.tableText "conversation" (
      Toml.setting "max_history_pairs" bound
        :: optional "system_prompt" Toml.stringText c.conversation.systemPrompt),
    Toml.tableText "tools" [
      Toml.setting "trust_all" (Toml.boolText c.tools.trustAll),
      Toml.setting "trusted" (Toml.stringsText c.tools.trusted),
      Toml.setting "max_tool_rounds" rounds,
      Toml.setting "max_output_bytes" bytes],
    Toml.tableText "mcp" (
      Toml.setting "enabled" (Toml.boolText c.servers.enabled)
        :: optional "global_config" Toml.stringText c.servers.globalConfig
        ++ optional "workspace_config" Toml.stringText c.servers.workspaceConfig
        ++ [Toml.setting "init_concurrency" concurrency,
          Toml.setting "request_timeout_secs" patience]),
    Toml.tableText "streaming" [Toml.setting "enabled" (Toml.boolText c.streaming)],
    Toml.tableText "logging" [Toml.setting "level" (Toml.stringText c.logLevel)]]

/-- A document with the default settings, as an example. -/
def exampleDocument : String :=
  match standard.toToml with
  | .ok text => text
  | .error () => "# Error generating config"

end ToolAgent.Config
