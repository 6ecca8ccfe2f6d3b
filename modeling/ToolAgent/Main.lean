import ToolAgent.Program
import ToolAgent.Server.Endpoint

/-!
# The command line

The program takes what it is started in from its process: the variables of the environment, the
directory, and the files from which it is configured. No connection can be opened from here, so the
backend counts as out of reach, and no line of input is asked for.
-/

namespace ToolAgent.Console

/-- A file of the system, if it can be read. -/
def bytesOf? (path : String) : IO (Option Bytes) := do
  match ← (IO.FS.readBinFile path).toBaseIO with
  | .ok content => return some content.toList
  | .error _ => return none

/-- The variables of the environment as the system lists them: a null byte ends each. -/
def variablesOf (listing : Bytes) : Variables :=
  (Text.completeLines (· = 0) listing).1.filterMap fun entry =>
    (Utf8.toString? entry).bind fun text => Text.cut text "="

/-- The tree with a file of the system put at the same place. -/
def withFile (tree : Entry) (path : String) : IO Entry := do
  match ← bytesOf? path with
  | none => return tree
  | some content =>
    let tree := match Path.parent? path with
      | some parent => (Files.makeDirs tree [] parent).2
      | none => tree
    return (Files.writeBytes tree [] path content).toOption.getD tree

/-- The path of a location. -/
def pathOf (l : Location) : String := "/" ++ String.intercalate "/" l

/-- What the program is started in. -/
def surroundings : IO Surroundings := do
  let vars := variablesOf ((← bytesOf? "/proc/self/environ").getD [])
  let cwd := (Path.pieces (toString (← IO.currentDir))).filter (· ≠ "")
  let mut tree := (Files.makeDirs (.dir []) [] (pathOf cwd)).2
  for depth in List.range (cwd.length + 1) do
    tree ← withFile tree (Path.join (pathOf (cwd.take depth)) ".env")
  let s : Surroundings := ⟨tree, cwd, vars⟩
  return { s with tree := ← withFile tree s.withDotenv.configFile }

/-- Prints on standard output or standard error. -/
def write : Printed → IO Unit
  | .out text => IO.print text
  | .err text => IO.eprint text

/-- No server is started before the backend was reached. -/
def launch (_ : ServerConfig) : Except String Endpoint := .error "no process can be started"

end ToolAgent.Console

open ToolAgent

/-- Runs the program on its surroundings, and ends with its status. -/
def main : IO UInt32 := do
  let s ← Console.surroundings
  match Program.run 0 s (⟨⟩ : Http.Nowhere) Console.launch "" [] with
  | none => return 1
  | some ending =>
    ending.printed.forM Console.write
    return UInt32.ofNat ending.exitCode
