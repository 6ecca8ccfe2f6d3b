import ToolAgent.Shell.Pattern
import ToolAgent.Shell.Program.Basic
import ToolAgent.Shell.Syntax

/-!
# The state of a shell

Variables, the working directory, the channels that output goes to, the input that is left, and the
file tree. A shell may *halt*: because a script ends or is left, because it is killed, because it
waits for input that has not come yet, or because it has run for too long.
-/

namespace ToolAgent.Shell

/-- Where the output on a channel goes. -/
inductive Channel
  | out
  | err
  | file (location : Location)
  | nowhere
deriving DecidableEq, Repr

/-- Why no further command is run. -/
inductive Halt
  | exit
  | leaveFunction
  | leaveLoop (levels : Nat)
  | nextRound (levels : Nat)
  | killed (signal : Nat)
  /-- Waiting for more input. -/
  | waiting
  | exhausted
deriving DecidableEq, Repr

/-- A way for a shell to be stricter or louder. -/
inductive ShellOption
  /-- A failing command ends the script. -/
  | errexit
  /-- A variable that is not set may not be used. -/
  | nounset
  /-- Commands are shown before they are run. -/
  | xtrace
  /-- A pipeline fails if one of its commands does. -/
  | pipefail
deriving DecidableEq, Repr

namespace ShellOption

/-- The option that a letter after `set` names. -/
def ofLetter? : Char → Option ShellOption
  | 'e' => some errexit
  | 'u' => some nounset
  | 'x' => some xtrace
  | _ => none

/-- The option that a word after `set -o` names. -/
def ofName? (name : String) : Option ShellOption :=
  [("errexit", errexit), ("nounset", nounset), ("xtrace", xtrace),
    ("pipefail", pipefail)].lookup name

/-- The options after some are switched on or off. -/
def switched (on : Bool) (options changed : List ShellOption) : List ShellOption :=
  if on then options ++ changed.filter (!options.contains ·)
  else options.filter (!changed.contains ·)

/-- The options after the arguments of `set`, and the parameters if they are set. -/
def ofArgs (options : List ShellOption) : List String → List ShellOption × Option (List String)
  | [] => (options, none)
  | "--" :: params => (options, some params)
  | arg :: rest =>
    match arg.toList with
    | sign :: letters =>
      if sign = '-' || sign = '+' then
        let options := switched (sign == '-') options (letters.filterMap ofLetter?)
        if letters.contains 'o' then
          match rest with
          | name :: rest => ofArgs (switched (sign == '-') options (ofName? name).toList) rest
          | [] => (options, none)
        else ofArgs options rest
      else (options, some (arg :: rest))
    | [] => (options, some (arg :: rest))

end ShellOption

/-- The state of a shell between two commands. -/
structure Machine where
  tree : Entry
  /-- The working directory as a path. -/
  cwd : String
  vars : List (String × String)
  exported : List String
  /-- The parameters from the first on. -/
  params : List String
  /-- The name of the script. -/
  name : String
  /-- The name under which the shell complains. -/
  label : String
  functions : List (String × Command)
  status : Nat
  /-- What was put out, the last piece first. -/
  out : List Bytes
  err : List Bytes
  input : Bytes
  /-- Whether more input may come. -/
  inputOpen : Bool
  channels : List (Nat × Channel)
  halt : Option Halt
  line : Nat
  options : List ShellOption
  /-- What is run when the script ends. -/
  atExit : Option String
  /-- How many conditions are being tried, in which failing is allowed. -/
  tests : Nat

namespace Machine

/-- A shell with an environment and arguments. -/
def start (tree : Entry) (cwd : String) (environment : List (String × String)) (name : String)
    (params : List String) (input : Bytes) (inputOpen : Bool) : Machine :=
  ⟨tree, cwd, environment, environment.map (·.1), params, name, "bash", [], 0, [], [], input,
    inputOpen, [(1, .out), (2, .err)], none, 1, [], none, 0⟩

/-- The location of the working directory. -/
def here (m : Machine) : Location :=
  match Files.find m.tree [] m.cwd with
  | .ok (l, _) => l
  | .error _ => []

/-- Whether an option is on. -/
def has (m : Machine) (o : ShellOption) : Bool := m.options.contains o

/-- The value of a variable. -/
def get? (m : Machine) (name : String) : Option String := m.vars.lookup name

/-- The shell with a variable set. -/
def set (m : Machine) (name value : String) : Machine :=
  { m with vars := (name, value) :: m.vars.filter (·.1 ≠ name) }

/-- The shell without a variable and without a function of that name. -/
def unset (m : Machine) (name : String) : Machine :=
  { m with vars := m.vars.filter (·.1 ≠ name), functions := m.functions.filter (·.1 ≠ name) }

/-- The shell after a command with this status. -/
def withStatus (m : Machine) (status : Nat) : Machine := { m with status := status }

/-- The shell on its way out of a loop, a function or the script. -/
def stop (m : Machine) (h : Halt) : Machine := { m with halt := some h }

/-- Puts out bytes on a channel. -/
def write (m : Machine) (channel : Nat) (bs : Bytes) : Machine :=
  if bs = [] then m
  else match m.channels.lookup channel with
    | some .out => { m with out := bs :: m.out }
    | some .err => { m with err := bs :: m.err }
    | some (.file l) =>
      match m.tree.get? l with
      | some (.file old) => { m with tree := m.tree.put l (.file (old ++ bs)) }
      | _ => m
    | some .nowhere | none => m

/-- Puts out a line on a channel. -/
def say (m : Machine) (channel : Nat) (s : String) : Machine := m.write channel (Utf8.ofString s)

/-- Complains with the shell's name and the line, and fails. -/
def complain (m : Machine) (status : Nat) (s : String) : Machine :=
  (m.say 2 (m.label ++ ": line " ++ toString m.line ++ ": " ++ s ++ "\n")).withStatus status

/-- A word as it is shown: in quotes if it needs them. -/
def shownWord (w : String) : String :=
  let plain (c : Char) : Bool := c.isAlphanum || "%+,-./:=@_^".toList.contains c
  if w ≠ "" && w.toList.all plain then w else "'" ++ Text.replace w "'" "'\\''" ++ "'"

/-- Shows a command if commands are to be shown. -/
def trace (m : Machine) (words : List String) : Machine :=
  if m.has .xtrace then m.say 2 ("+ " ++ String.intercalate " " words ++ "\n") else m

/-- Everything put out so far. -/
def output (m : Machine) : Bytes := m.out.reverse.flatten

/-- What was put out on standard error. -/
def errors (m : Machine) : Bytes := m.err.reverse.flatten

/-- The value of a special parameter. -/
def special? (m : Machine) (name : String) : Option String :=
  match name with
  | "?" => some (toString m.status)
  | "#" => some (toString m.params.length)
  | "$" => some "4242"
  | "0" => some m.name
  | "-" => some "hBc"
  | "LINENO" => some (toString m.line)
  | "UID" | "EUID" => some "0"
  | "!" => some ""
  | "@" | "*" => if m.params = [] then none else some (String.intercalate " " m.params)
  | _ => none

/-- The value of a parameter. -/
def param? (m : Machine) (name : String) : Option String :=
  match m.special? name with
  | some v => some v
  | none =>
    match name.toNat? with
    | some (n + 1) => m.params[n]?
    | _ => m.get? name

/-- The characters that separate fields. -/
def separators (m : Machine) : List Char := ((m.get? "IFS").getD " \t\n").toList

/-- A line of the input, without its end: none at the end of the input, and `waiting` if the line is
not complete and more may come. -/
def readLine (m : Machine) : Option Bytes × Machine :=
  let line := m.input.takeWhile (· ≠ 10)
  match m.input.drop line.length with
  | _ :: rest => (some line, { m with input := rest })
  | [] =>
    if m.inputOpen then (none, m.stop .waiting)
    else (none, { m with input := [] })

/-- The machine after a program. -/
def absorb (m : Machine) (e : Effect) : Machine :=
  let m := e.output.foldl (fun m (channel, bs) => m.write channel bs) { m with tree := e.tree }
  let m := m.withStatus e.status
  if e.drained then
    let m := { m with input := [] }
    if m.inputOpen then m.stop .waiting else m
  else m

/-! ### Fields -/

/-- Characters, each with whether it is quoted. -/
abbrev Field := List (Char × Bool)

/-- The characters of a field. -/
def Field.text (f : Field) : String := String.ofList (f.map (·.1))

/-- Characters that are all quoted, or all not. -/
def asField (quoted : Bool) (cs : List Char) : Field := cs.map fun c => (c, quoted)

/-- Fields in the making: those that are complete, the last first, and the one being made. -/
structure Fields where
  done : List Field
  current : Option Field

namespace Fields

/-- No fields. -/
def empty : Fields := ⟨[], none⟩

/-- Adds characters to the field being made. -/
def push (fs : Fields) (f : Field) : Fields := ⟨fs.done, some (fs.current.getD [] ++ f)⟩

/-- Completes the field being made. -/
def close (fs : Fields) : Fields :=
  match fs.current with
  | some f => ⟨f :: fs.done, none⟩
  | none => fs

/-- Adds text that is split at separators. -/
def split (separators : List Char) (fs : Fields) : List Char → Fields
  | [] => fs
  | c :: cs =>
    if separators.contains c then
      let blank := c = ' ' || c = '\t' || c = '\n'
      if blank then split separators fs.close cs
      else split separators (fs.push []).close cs
    else split separators (fs.push [(c, false)]) cs

/-- Adds texts that are fields of their own, all but the outer ends. -/
def pushAll (fs : Fields) : List String → Fields
  | [] => fs
  | [s] => fs.push (asField true s.toList)
  | s :: rest => pushAll (fs.push (asField true s.toList)).close rest

/-- The fields in order, the last one completed. -/
def toList (fs : Fields) : List Field := fs.close.done.reverse

end Fields

/-! ### File names -/

/-- The pieces of a field between slashes. -/
def splitSlashes : Field → List Field
  | [] => [[]]
  | c :: r =>
    match splitSlashes r with
    | [] => [[c]]
    | f :: fs => if c.1 = '/' then [] :: f :: fs else (c :: f) :: fs

/-- The paths that match the remaining pieces below a directory, each behind `lead`. -/
def matching (m : Machine) (dir lead : String) : List Field → List String
  | [] => []
  | [piece] => (names dir piece).map (lead ++ ·)
  | piece :: rest =>
    if piece = [] then matching m dir (lead ++ "/") rest
    else
      (names dir piece).flatMap fun n =>
        let path := Path.join dir n
        if Files.isDirAt m.tree [] path then matching m path (lead ++ n ++ "/") rest else []
where
  /-- The names in a directory that match a piece. -/
  names (dir : String) (piece : Field) : List String :=
    let globs := Glob.parse piece
    if Glob.isActive globs then
      match Files.listDir m.tree [] dir with
      | .ok children =>
        (children.map (·.1)).filter fun n =>
          Glob.accepts globs n.toList
            && (!Text.startsWith n "." || piece.head?.map (·.1) == some '.')
      | .error _ => []
    else
      let n := Field.text piece
      if Files.pathExists m.tree [] (Path.join dir n) then [n] else []

/-- A field with its pattern carried out; as it is if nothing matches. -/
def glob (m : Machine) (f : Field) : List String :=
  if !Glob.isActive (Glob.parse f) then [f.text]
  else
    let found :=
      match f with
      | ('/', _) :: rest => m.matching "/" "/" (splitSlashes rest)
      | _ => m.matching m.cwd "" (splitSlashes f)
    if found.isEmpty then [f.text] else found

end Machine

end ToolAgent.Shell
