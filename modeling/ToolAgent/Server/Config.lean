import ToolAgent.Json.Reader
import ToolAgent.Table

/-!
# Which tool servers to start

A configuration names each server and says how it is launched.
-/

namespace ToolAgent

open Json (Value Reader)
open Json.Read (Record field need)

/-- How a server is launched. -/
structure ServerConfig where
  command : String
  args : List String
  /-- Variables of the environment to set. -/
  env : Option (Table String)
  /-- How long a request may take. -/
  timeoutSecs : Option UInt64
deriving DecidableEq

namespace ServerConfig

/-- The object that stands for a configuration; what is not set is left out. -/
def toJson (c : ServerConfig) : Value :=
  .object ([("args", .list (c.args.map .string)), ("command", .string c.command)]
    ++ (match c.env with
      | some env => [("env", .object (env.entries.map fun (k, v) => (k, .string v)))]
      | none => [])
    ++ (match c.timeoutSecs with
      | some n => [("timeoutSecs", .ofNat n.toNat)]
      | none => []))

/-- A configuration that is being read. -/
structure Draft where
  command : Option String
  args : Option (List String)
  env : Option (Option (Table String))
  timeoutSecs : Option (Option UInt64)

/-- How a configuration is read: only the command must be there. -/
def record : Record Draft ServerConfig where
  what := "struct CustomToolConfig"
  whatCounted := "struct CustomToolConfig with 4 elements"
  fields := [
    field "command" Json.Read.string Draft.command (fun a d => { d with command := some a }),
    field "args" (Json.Read.list Json.Read.string) Draft.args
      (fun a d => { d with args := some a }),
    field "env" (Json.Read.option fun node =>
        (Json.Read.map Json.Read.string node).map Table.ofList) Draft.env
      (fun a d => { d with env := some a }),
    field "timeoutSecs" (Json.Read.option (Json.Read.word "u64")) Draft.timeoutSecs
      (fun a d => { d with timeoutSecs := some a })]
  start := ⟨none, none, none, none⟩
  finish absence d := do
    let command ← need absence 0 "command" d.command
    return ⟨command, d.args.getD [], d.env.getD none, d.timeoutSecs.getD none⟩

/-- Reads a configuration. -/
def read : Reader ServerConfig := record.read

end ServerConfig

/-- The servers to start, by name. -/
abbrev ServerTable := Table ServerConfig

namespace ServerTable

/-- The object that stands for a table of servers. -/
def toJson (t : ServerTable) : Value :=
  .object [("mcpServers", .object (t.entries.map fun (k, c) => (k, c.toJson)))]

/-- A table that is being read. -/
structure Draft where
  servers : Option ServerTable

/-- How a table of servers is read; it is empty if it is missing. -/
def record : Record Draft ServerTable where
  what := "struct McpServerConfig"
  whatCounted := "struct McpServerConfig with 1 element"
  fields := [
    field "mcpServers" (fun node => (Json.Read.map ServerConfig.read node).map Table.ofList)
      Draft.servers (fun a _ => ⟨some a⟩)]
  start := ⟨none⟩
  finish _ d := .ok (d.servers.getD .empty)

/-- Reads a table of servers. -/
def read : Reader ServerTable := record.read

end ServerTable

end ToolAgent
