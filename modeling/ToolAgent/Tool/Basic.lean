import ToolAgent.Permissions
import ToolAgent.Tool.Command
import ToolAgent.Tool.FileRead
import ToolAgent.Tool.FileWrite

/-!
# Tools that are ready to be called

A tool is one of the program's own, with its arguments read, or a call to a server. It goes by the
name that the model used; trust is given to that name.
-/

namespace ToolAgent

open Json (Value)

/-- A call to a server's tool. -/
structure ServerCall where
  /-- The name that the server is registered under. -/
  server : String
  /-- The name that the server is shown by. -/
  label : String
  /-- The tool's name, as the server knows it. -/
  tool : String
  /-- The name that the model used. -/
  fullName : String
  /-- The method by which the server runs tools. -/
  method : String
  args : Option Value
deriving DecidableEq, Repr

namespace ServerCall

/-- The method that runs a tool. -/
def callMethod : String := "tools/call"

/-- What is about to be called, and with what. -/
def describe (c : ServerCall) : String :=
  "Running " ++ c.tool ++ " from MCP server " ++ c.label ++ " with arguments "
    ++ (match c.args with
      | some v => v.text
      | none => "\x7b\x7d")

/-- What the server gets: the tool's name and the arguments, an empty object if there are none. -/
def params (c : ServerCall) : Value :=
  .object [("arguments", c.args.getD (.object [])), ("name", .string c.tool)]

end ServerCall

/-- A tool with its arguments. -/
inductive Tool
  | read (r : FileRead)
  | write (w : FileWrite)
  | command (c : CommandLine)
  | server (c : ServerCall)
deriving DecidableEq, Repr

namespace Tool

/-- The name that the model used. -/
def name : Tool → String
  | read _ => "fs_read"
  | write _ => "fs_write"
  | command _ => "execute_bash"
  | server c => c.fullName

/-- A name for people. -/
def displayName : Tool → String
  | read _ => "Read from filesystem"
  | write _ => "Write to filesystem"
  | command _ => "Execute shell command"
  | server c => c.tool

/-- Whether the user has to agree before the tool runs. -/
def requiresConsent : Tool → Bool
  | read _ => false
  | write _ => true
  | command c => c.requiresConsent
  | server _ => true

/-- The call in one line. -/
def describe (w : Workplace) : Tool → String
  | read r => r.describe w
  | write c => c.describe w
  | command c => c.describe
  | server c => c.describe

/-- Whether the arguments fit the place. -/
def validate (w : Workplace) (tree : Entry) : Tool → Except Error Unit
  | read r => r.validate w tree
  | write c => c.validate w tree
  | command c => c.validate
  | server _ => .ok ()

end Tool

/-- Whether the user is asked before the tool runs. -/
def Permissions.mustAsk (p : Permissions) (t : Tool) : Bool :=
  t.requiresConsent && !p.isTrusted t.name

end ToolAgent
