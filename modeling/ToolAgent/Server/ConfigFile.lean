import ToolAgent.Error
import ToolAgent.Files.Operations
import ToolAgent.Server.Config

/-!
# The files that list the servers

There is a list of servers for all places and one for this place; a server in the second goes before
the one of the same name in the first. A file that is not there lists nothing.
-/

namespace ToolAgent.ServerTable

/-- The servers that a file lists. -/
def ofFile (tree : Entry) (cwd : Location) (path : String) : Except Error ServerTable :=
  if !Files.pathExists tree cwd path then .ok .empty
  else match Files.readText tree cwd path with
    | .error e => .error (.io e.message)
    | .ok text =>
      match Json.readText ServerTable.read text with
      | .ok servers => .ok servers
      | .error e => .error (.config ("invalid MCP config " ++ path ++ ": " ++ e))

/-- The servers for this place and for all places. -/
def load (tree : Entry) (cwd : Location) (everywhere here : String) : Except Error ServerTable := do
  let inherited ← ofFile tree cwd everywhere
  let own ← ofFile tree cwd here
  return inherited.union own

end ToolAgent.ServerTable
