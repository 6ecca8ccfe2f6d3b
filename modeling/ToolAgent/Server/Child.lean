import ToolAgent.Server.Client
import ToolAgent.Server.Config
import ToolAgent.Shell.Run

/-!
# A server that is a shell script

A server can be a script that a shell runs in the working directory. The script is run on
everything that was sent so far, up to where it waits for more; what it puts out beyond what it had
put out before is its answer.
-/

namespace ToolAgent

/-- A script that is being run. -/
structure ChildServer where
  /-- The shell before the script starts. -/
  shell : Shell.Machine
  /-- The command that is run: the words of it. -/
  command : List String
  /-- What was sent so far. -/
  input : Bytes
  /-- How much was put out so far. -/
  seen : Nat

namespace ChildServer

/-- A word in quotes, so that the shell takes it as it is. -/
def quoted (word : String) : String := "'" ++ Text.replace word "'" "'\\''" ++ "'"

/-- The shell after all that was sent so far. -/
def after (p : ChildServer) : Shell.Machine :=
  { p.shell with input := p.input, inputOpen := true }.runText
    (String.intercalate " " (p.command.map quoted))

/-- Whether the script has ended. -/
def isOver (m : Shell.Machine) : Bool :=
  match m.halt with
  | some .waiting => false
  | _ => true

/-- What is new, and the process that has put it out. -/
def advance (p : ChildServer) : PeerOutput × ChildServer :=
  let m := p.after
  (⟨m.output.drop p.seen, isOver m⟩, { p with seen := m.output.length })

instance : Peer ChildServer where
  greeting p := p.advance
  send p line :=
    if isOver p.after then (.error "Broken pipe (os error 32)", p)
    else
      let (out, p) := { p with input := p.input ++ Utf8.ofString line }.advance
      (.ok out, p)

/-- Starts the process of a server in a directory, with the variables of an environment and its own;
or the reason why it cannot be started. -/
def launch (tree : Entry) (cwd : String) (environment : List (String × String)) (c : ServerConfig) :
    Except String ChildServer :=
  let own := match c.env with
    | some t => t.entries
    | none => []
  let vars := own ++ environment.filter fun v => !own.any (·.1 = v.1)
  let shell := Shell.Machine.start tree cwd vars "bash" [] [] true
  let name := ((Text.dropStart? c.command "/usr/bin/").orElse fun _ =>
    Text.dropStart? c.command "/bin/").getD c.command
  let known := Shell.standalone.contains name || Shell.isProgram name
  if (String.join (c.command :: c.args)).toList.contains '\x00' then
    .error "nul byte found in provided data"
  else if known then .ok ⟨shell, name :: c.args, [], 0⟩
  else .error FileError.notFound.message

end ChildServer

end ToolAgent
