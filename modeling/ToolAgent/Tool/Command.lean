import ToolAgent.Error
import ToolAgent.Json.Reader
import ToolAgent.Shell.Run
import ToolAgent.Tool.Output

/-!
# Running shell commands

A command line is handed to a shell in the working directory, with nothing on its input. A command
that only reads may run without a question; what counts as reading is decided by the look of the
line: it has none of the marks that join, redirect or substitute, and its first word is one of a few
programs.
-/

namespace ToolAgent

open Json (Value Fault)
open Json.Read (Record field need)

/-- A command line for the shell. -/
structure CommandLine where
  text : String
deriving DecidableEq, Repr

namespace CommandLine

/-! ### From arguments -/

/-- The arguments of a call, as they are read. -/
structure Draft where
  text : Option String

/-- How a call is read: the command must be there. -/
def record : Record Draft CommandLine where
  what := "struct ExecuteBash"
  whatCounted := "struct ExecuteBash with 1 element"
  fields := [field "command" Json.Read.string Draft.text (fun a _ => ⟨some a⟩)]
  start := ⟨none⟩
  finish absence d := do
    let text ← need absence 0 "command" d.text
    return ⟨text⟩

/-- Reads the arguments of a call. -/
def ofArgs (args : Value) : Except Fault CommandLine := record.read (.given args)

/-! ### Before the call -/

/-- Programs that only read. -/
def readers : List String := ["ls", "cat", "echo", "pwd", "which", "head", "tail", "grep", "find"]

/-- Marks that pipe, redirect, chain or substitute. -/
def joiners : List String := ["|", ">", "<", ";", "&", "\x60", "$(", "\n"]

/-- Options of `find` that run a command, delete or write to a file. -/
def findWriters : List String :=
  ["-exec", "-execdir", "-delete", "-ok", "-okdir", "-fprint", "-fprint0", "-fprintf", "-fls"]

/-- The line as words between blanks. -/
def words (c : CommandLine) : List String := Text.words c.text

/-- Whether one of the marks occurs. -/
def isJoined (c : CommandLine) : Bool := joiners.any (Text.contains c.text ·)

/-- Whether the user has to agree before the command runs. -/
def requiresConsent (c : CommandLine) : Bool :=
  c.isJoined ||
    match c.words with
    | [] => true
    | program :: args =>
      !readers.contains program || (program == "find" && args.any findWriters.contains)

/-- Whether there is a command at all. -/
def validate (c : CommandLine) : Except Error Unit :=
  if Text.isBlankText c.text then .error (.tool "Command must not be empty") else .ok ()

/-- The call in one line. -/
def describe (c : CommandLine) : String := "I will run: " ++ c.text

/-! ### The call -/

/-- The variables that a command finds. -/
def environment (home here : String) : List (String × String) :=
  [("HOME", home), ("LC_ALL", "C"), ("PWD", here),
    ("PATH", "/usr/local/sbin:/usr/local/bin:/usr/sbin:/usr/bin:/sbin:/bin")]

/-- The status that a shell ended with. -/
def exitStatus (m : Shell.Machine) : String :=
  match m.halt with
  | some (.killed _) => "terminated by signal"
  | _ => toString m.status

/-- What the command put out. -/
def report (w : Workplace) (m : Shell.Machine) : Output :=
  let shown (bs : Bytes) : Value := .string (truncate w.maxOutputBytes (Utf8.toStringLossy bs))
  .json (.object [("exit_status", .string (exitStatus m)), ("stderr", shown m.errors),
    ("stdout", shown m.output)])

/-- Runs the command: what it put out, and the tree after it. -/
def run (w : Workplace) (tree : Entry) (c : CommandLine) : Except Error Output × Entry :=
  let fail (reason : String) : Except Error Output × Entry :=
    (.error (.inContext ("failed to spawn: " ++ c.text) reason), tree)
  if (w.cwd ++ c.text).toList.contains '\x00' then fail "nul byte found in provided data"
  else match Files.find tree w.base w.cwd with
    | .error e => fail e.message
    | .ok (here, .dir _) =>
      let path := "/" ++ String.intercalate "/" here
      let shell := Shell.Machine.start tree path (environment w.home path) "bash" [] [] false
      let m := shell.runText c.text
      (.ok (report w m), m.tree)
    | .ok _ => fail FileError.notDirectory.message

end CommandLine

end ToolAgent
