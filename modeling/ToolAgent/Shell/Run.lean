import ToolAgent.Shell.Arithmetic
import ToolAgent.Shell.Brace
import ToolAgent.Shell.Builtin
import ToolAgent.Shell.Machine
import ToolAgent.Shell.Parser
import ToolAgent.Shell.Program.Files
import ToolAgent.Shell.Program.Text

/-!
# Running shell scripts

Expansion of words and execution of commands, each a step from one state of the shell to the next.
The fuel bounds how deep commands nest and how often loops go round; a script that uses it up counts
as one that never ends.
-/

namespace ToolAgent.Shell

/-- The programs that can be called by name. -/
def programs : List (String × Program) :=
  [("cat", Program.cat), ("head", Program.head), ("tail", Program.tail), ("wc", Program.wc),
    ("tr", Program.tr), ("seq", Program.seq), ("sort", Program.sort), ("uniq", Program.uniq),
    ("cut", Program.cut), ("rev", Program.rev), ("tac", Program.tac), ("nl", Program.nl),
    ("yes", Program.yes), ("expr", Program.expr), ("tee", Program.tee),
    ("uname", fun c => .text c "Linux\n"), ("grep", Program.grep), ("sed", Program.sed),
    ("basename", Program.basename), ("dirname", Program.dirname),
    ("ls", Program.ls), ("mkdir", Program.mkdir), ("rmdir", Program.rmdir), ("rm", Program.rm),
    ("touch", Program.touch), ("cp", Program.cp), ("mv", Program.mv), ("ln", Program.ln),
    ("find", Program.find), ("chmod", fun c => .exit c 0), ("sync", fun c => .exit c 0),
    ("sleep", fun c => .exit c 0)]

/-- Commands that the shell carries out itself. -/
def builtins : List String :=
  [":", "true", "false", "echo", "printf", "test", "[", "pwd", "cd", "exit", "return", "break",
    "continue", "read", "export", "unset", "set", "shift", ".", "source", "eval", "kill", "local",
    "declare", "readonly", "command", "exec", "trap", "wait", "umask", "type", "let"]

/-- Those of the shell's own commands that are programs as well. -/
def standalone : List String := ["true", "false", "echo", "printf", "test", "[", "pwd", "kill"]

/-- Programs that call others. -/
def callers : List String := ["which", "env", "printenv", "bash", "sh", "xargs"]

/-- Words that begin or end compound commands. -/
def reservedWords : List String :=
  ["if", "then", "else", "elif", "fi", "while", "until", "do", "done", "for", "in", "case", "esac",
    "\x7b", "\x7d", "!", "function", "[[", "]]", "time", "select"]

/-- Whether a name is that of a program. -/
def isProgram (name : String) : Bool := callers.contains name || (programs.lookup name).isSome

/-- How deep commands may nest and how often loops may go round. -/
def fuelLimit : Nat := 200000

/-- The number of a signal given by name or number. -/
def signalNumber (s : String) : Option Nat :=
  let s := (Text.dropStart? s "SIG").getD s
  match [("HUP", 1), ("INT", 2), ("QUIT", 3), ("ABRT", 6), ("KILL", 9), ("USR1", 10), ("SEGV", 11),
      ("USR2", 12), ("PIPE", 13), ("ALRM", 14), ("TERM", 15)].lookup s with
  | some n => some n
  | none => s.toNat?

/-- The shorter or longer start of a text that a pattern matches, taken away. -/
def dropStart (longest : Bool) (pattern : Machine.Field) (cs : List Char) : List Char :=
  let globs := Glob.parse pattern
  let sizes := List.range (cs.length + 1)
  let sizes := if longest then sizes.reverse else sizes
  match sizes.find? fun n => Glob.accepts globs (cs.take n) with
  | some n => cs.drop n
  | none => cs

/-- The shorter or longer end of a text that a pattern matches, taken away. -/
def dropStop (longest : Bool) (pattern : Machine.Field) (cs : List Char) : List Char :=
  let globs := Glob.parse pattern
  let sizes := List.range (cs.length + 1)
  let sizes := if longest then sizes else sizes.reverse
  match sizes.find? fun n => Glob.accepts globs (cs.drop n) with
  | some n => cs.take n
  | none => cs

/-- A pattern replaced at its first or at all places, the longest match at each. -/
def substitute (every : Bool) (pattern : Machine.Field) (new : List Char) : List Char → List Char
  | [] => []
  | c :: cs =>
    let globs := Glob.parse pattern
    let here := c :: cs
    match (List.range (here.length + 1)).reverse.find? fun n =>
        n ≠ 0 && Glob.accepts globs (here.take n) with
    | some (n + 1) => new ++ (if every then substitute every pattern new (cs.drop n) else cs.drop n)
    | _ => c :: substitute every pattern new cs
termination_by cs => cs.length
decreasing_by all_goals simp only [List.length_cons, List.length_drop]; omega

/-- The quoted pieces of a text such as stands after a modifier. -/
def piecesOf (cs : List Char) : Word :=
  match doubleQuoted (cs.length + 2) [] (cs ++ ['"']) with
  | .ok (seen, _) => seen.reverse
  | .error _ => [.quoted cs]

/-- The unquoted characters of a pattern such as stands after a modifier. -/
def patternOf (cs : List Char) : Word :=
  match wordFrom (cs.length + 2) [] cs with
  | .ok (w, _) => w
  | .error _ => [.quoted cs]

/-- The state after a shell of its own: output, files and input stay, all else is as before. -/
def rejoin (m sub : Machine) : Machine :=
  { m with
    tree := sub.tree, out := sub.out, err := sub.err, input := sub.input, status := sub.status,
    halt := match sub.halt with
      | some (.killed n) => some (.killed n)
      | some .waiting => some .waiting
      | some .exhausted => some .exhausted
      | _ => none }

/-- Ends the script if commands may not fail and this one did. -/
def checkStrict (m : Machine) : Machine :=
  if m.has .errexit && m.tests = 0 && m.status ≠ 0 && m.halt.isNone then m.stop .exit else m

mutual

/-- The value of a parameter with its modifier. -/
def expandParam (fuel : Nat) (m : Machine) (name : String) (modifier : List Char) :
    Machine × Option String :=
  match fuel with
  | 0 => (m.stop .exhausted, none)
  | fuel + 1 =>
    let value := m.param? name
    let text (m : Machine) (cs : List Char) : Machine × String :=
      let (m, f) := expandText fuel m (piecesOf cs)
      (m, f.text)
    let pattern (cs : List Char) : Machine × Machine.Field := expandText fuel m (patternOf cs)
    let isSet (colon : Bool) : Bool := if colon then value.any (· ≠ "") else value.isSome
    let orElse (colon : Bool) (op : Char) (w : List Char) : Machine × Option String :=
      match op with
      | '-' => if isSet colon then (m, value) else let (m, s) := text m w; (m, some s)
      | '=' => if isSet colon then (m, value) else let (m, s) := text m w; (m.set name s, some s)
      | '+' => if isSet colon then let (m, s) := text m w; (m, some s) else (m, some "")
      | _ =>
        if isSet colon then (m, value)
        else
          let (m, s) := text m w
          ((m.complain 127 (name ++ ": "
            ++ (if s = "" then "parameter null or not set" else s))).stop .exit,
            none)
    let cs := (value.getD "").toList
    let unbound := m.has .nounset && value.isNone && name ≠ "@" && name ≠ "*" && name ≠ "!"
    match modifier with
    | [] => if unbound then ((m.complain 127 (name ++ ": unbound variable")).stop .exit, none)
      else (m, value)
    | '#' :: [] => (m, some (toString (Utf8.size cs)))
    | ':' :: op :: w =>
      if op = '-' || op = '=' || op = '+' || op = '?' then orElse true op w
      else
        let parts := ((op :: w).splitOn ':').map String.ofList
        let number (s : String) : Option Int := integer? (Text.trim s)
        match parts.map number with
        | [some a] => (m, some
          (String.ofList (cs.drop (if a < 0 then cs.length - a.natAbs else a.toNat))))
        | [some a, some n] =>
          let tail := cs.drop (if a < 0 then cs.length - a.natAbs else a.toNat)
          (m, some (String.ofList (tail.take (if n < 0 then tail.length - n.natAbs else n.toNat))))
        | _ => (m, value)
    | '-' :: w => orElse false '-' w
    | '=' :: w => orElse false '=' w
    | '+' :: w => orElse false '+' w
    | '?' :: w => orElse false '?' w
    | '#' :: '#' :: w => let (m, p) := pattern w; (m, some (String.ofList (dropStart true p cs)))
    | '#' :: w => let (m, p) := pattern w; (m, some (String.ofList (dropStart false p cs)))
    | '%' :: '%' :: w => let (m, p) := pattern w; (m, some (String.ofList (dropStop true p cs)))
    | '%' :: w => let (m, p) := pattern w; (m, some (String.ofList (dropStop false p cs)))
    | '/' :: w =>
      let (every, w) := match w with
        | '/' :: w => (true, w)
        | w => (false, w)
      let old := w.takeWhile (· ≠ '/')
      let new := (w.drop old.length).drop 1
      let (m, p) := expandText fuel m (patternOf old)
      let (m, n) := text m new
      (m, some (String.ofList (substitute every p n.toList cs)))
    | '^' :: '^' :: _ => (m, some (value.getD "").toUpper)
    | ',' :: ',' :: _ => (m, some (value.getD "").toLower)
    | _ => (m, value)

/-- What a piece other than text stands for. -/
def expandPiece (fuel : Nat) (m : Machine) (p : Piece) : Machine × String :=
  match fuel with
  | 0 => (m.stop .exhausted, "")
  | fuel + 1 =>
    match p with
    | .plain cs | .quoted cs => (m, String.ofList cs)
    | .param name modifier _ =>
      let (m, v) := expandParam fuel m name modifier
      (m, v.getD "")
    | .command script _ =>
      let sub := runScript fuel
        { m with out := [], channels := (1, .out) :: m.channels.filter (·.1 ≠ 1) }
        (.ofText script m.line)
      let text := Utf8.decodeLossy (sub.output.filter (· ≠ 0))
      (rejoin { m with out := [] } { sub with out := [] } |> fun r => { r with out := m.out },
        String.ofList (Text.dropWhileEnd (· == '\n') text))
    | .arithmetic expr _ =>
      let (m, f) := expandText fuel m (piecesOf expr)
      let vars := m.vars ++ (List.range m.params.length).filterMap fun i =>
        (m.params[i]?).map fun v => (toString (i + 1), v)
      match Arithmetic.evaluate vars f.text.toList with
      | .ok v => ({ m with vars := v.vars }, toString v.number.toInt)
      | .error .divisionByZero =>
        ((m.complain 1 (f.text ++ ": division by 0 (error token is \"0\")")).stop .exit, "")
      | .error (.badDigit number) =>
        ((m.complain 1 (number ++ ": value too great for base (error token is \"" ++ number
          ++ "\")")).stop .exit, "")
      | .error .malformed =>
        ((m.complain 1 (f.text ++ ": syntax error: operand expected")).stop .exit, "")

/-- The fields that the pieces of a word add. -/
def expandFields (fuel : Nat) (m : Machine) (first : Bool) (fs : Machine.Fields) (w : Word) :
    Machine × Machine.Fields :=
  match fuel with
  | 0 => (m.stop .exhausted, fs)
  | fuel + 1 =>
    match w with
    | [] => (m, fs)
    | p :: ps =>
      match p with
      | .plain cs =>
        let fs := match first, cs with
          | true, '~' :: r =>
            if (r = [] && ps = []) || r.head? = some '/' then
              (fs.push (Machine.asField true ((m.get? "HOME").getD "~").toList)).push
                (Machine.asField false r)
            else fs.push (Machine.asField false cs)
          | _, _ => fs.push (Machine.asField false cs)
        expandFields fuel m false fs ps
      | .quoted cs => expandFields fuel m false (fs.push (Machine.asField true cs)) ps
      | .param "@" [] true =>
        let alone := ps.all fun
          | .quoted [] => true
          | _ => false
        -- the empty quotes around a list without items leave no field
        let fs := if m.params = [] && alone && fs.current = some [] then { fs with current := none }
          else fs
        expandFields fuel m false (fs.pushAll m.params) ps
      | .param "@" [] false | .param "*" [] false =>
        let fs := m.params.foldl (fun fs s => (fs.split m.separators s.toList).close) fs
        expandFields fuel m false fs ps
      | .param _ _ inQuotes | .command _ inQuotes | .arithmetic _ inQuotes =>
        let (m, s) := expandPiece fuel m p
        if m.halt.isSome then (m, fs)
        else
          let fs := if inQuotes then fs.push (Machine.asField true s.toList)
            else fs.split m.separators s.toList
          expandFields fuel m false fs ps

/-- The words of a command, expanded, split and matched against file names. -/
def expandWords (fuel : Nat) (m : Machine) (ws : List Word) : Machine × List String :=
  match fuel with
  | 0 => (m.stop .exhausted, [])
  | fuel + 1 =>
    match ws with
    | [] => (m, [])
    | w :: rest =>
      let (m, fs) := expandFields fuel m true .empty w
      if m.halt.isSome then (m, [])
      else
        let own := fs.toList.flatMap m.glob
        let (m, more) := expandWords fuel m rest
        (m, own ++ more)

/-- A word as one text, neither split nor matched against file names. -/
def expandText (fuel : Nat) (m : Machine) (w : Word) : Machine × Machine.Field :=
  match fuel with
  | 0 => (m.stop .exhausted, [])
  | fuel + 1 =>
    match w with
    | [] => (m, [])
    | p :: ps =>
      let (m, own) : Machine × Machine.Field :=
        match p with
        | .plain ('~' :: r) =>
          if r = [] || r.head? = some '/' then
            (m, Machine.asField true (((m.get? "HOME").getD "~").toList ++ r))
          else (m, Machine.asField false ('~' :: r))
        | .plain cs => (m, Machine.asField false cs)
        | .quoted cs => (m, Machine.asField true cs)
        | .param _ _ q | .command _ q | .arithmetic _ q =>
          let (m, s) := expandPiece fuel m p
          (m, Machine.asField q s.toList)
      if m.halt.isSome then (m, own)
      else
        let (m, more) := expandText fuel m ps
        (m, own ++ more)

/-- Sets up the redirections; false if one fails. -/
def redirect (fuel : Nat) (m : Machine) (rs : List Redirect) : Machine × Bool :=
  match fuel with
  | 0 => (m.stop .exhausted, false)
  | fuel + 1 =>
    match rs with
    | [] => (m, true)
    | r :: rest =>
      let (m, f) := expandText fuel m r.target
      let target := f.text
      let fail (e : FileError) : Machine × Bool :=
        (m.complain 1 (target ++ ": " ++ e.reason), false)
      let connect (m : Machine) (ch : Channel) : Machine :=
        { m with channels := (r.channel, ch) :: m.channels.filter (·.1 ≠ r.channel) }
      let outcome : Machine × Bool :=
        if m.halt.isSome then (m, false)
        else match r.kind with
          | .hereDocument =>
            ({ m with input := Utf8.ofString target, inputOpen := false }, true)
          | .hereText =>
            ({ m with input := Utf8.ofString (target ++ "\n"), inputOpen := false }, true)
          | .input =>
            if target = "/dev/null" then ({ m with input := [], inputOpen := false }, true)
            else if target = "/dev/stdin" then (m, true)
            else match Files.readBytes m.tree m.here target with
              | .ok bs => ({ m with input := bs, inputOpen := false }, true)
              | .error .isDirectory => ({ m with input := [], inputOpen := false }, true)
              | .error e => fail e
          | .duplicate =>
            if target = "-" then
              ({ m with channels := m.channels.filter (·.1 ≠ r.channel) }, true)
            else match target.toNat? with
              | some 0 => (m, true)
              | some n =>
                match m.channels.lookup n with
                | some ch => (connect m ch, true)
                | none => (m.complain 1 (target ++ ": Bad file descriptor"), false)
              | none => (m.complain 1 (target ++ ": ambiguous redirect"), false)
          | .output | .append =>
            if target = "/dev/null" then (connect m .nowhere, true)
            else if target = "/dev/stdout" then
              (connect m ((m.channels.lookup 1).getD .out), true)
            else if target = "/dev/stderr" then
              (connect m ((m.channels.lookup 2).getD .err), true)
            else
              let old := if r.kind = .append
                then (Files.readBytes m.tree m.here target).toOption.getD [] else []
              match Files.writeBytes m.tree m.here target old with
              | .error e => fail e
              | .ok tree =>
                match Files.find tree m.here target with
                | .ok (l, _) => (connect { m with tree := tree } (.file l), true)
                | .error e => fail e
      match outcome with
      | (m, true) => redirect fuel m rest
      | (m, false) => (m, false)

/-- Runs `f` under redirections, and takes them back. -/
def withRedirects (fuel : Nat) (m : Machine) (rs : List Redirect) (f : Machine → Machine) :
    Machine :=
  match fuel with
  | 0 => m.stop .exhausted
  | fuel + 1 =>
    match redirect fuel m rs with
    | (n, false) =>
      checkStrict { n with channels := m.channels, input := m.input, inputOpen := m.inputOpen }
    | (n, true) =>
      let replaced := rs.any fun r => r.channel = 0 && r.kind ≠ .duplicate
      let after := f n
      { after with
        channels := m.channels
        input := if replaced then m.input else after.input
        inputOpen := if replaced then m.inputOpen else after.inputOpen }

/-- Sets variables. -/
def assign (fuel : Nat) (m : Machine) (settings : List (String × Word)) : Machine :=
  match fuel with
  | 0 => m.stop .exhausted
  | fuel + 1 =>
    match settings with
    | [] => m
    | (name, w) :: rest =>
      let (m, f) := expandText fuel m w
      if m.halt.isSome then m
      else assign fuel ((m.trace [name ++ "=" ++ Machine.shownWord f.text]).set name f.text) rest

/-- Calls a command by its name. -/
def call (fuel : Nat) (m : Machine) (name : String) (args : List String) : Machine :=
  match fuel with
  | 0 => m.stop .exhausted
  | fuel + 1 =>
    match m.functions.lookup name with
    | some body =>
      let after := run fuel { m with params := args } body
      let after := { after with params := m.params }
      if after.halt = some .leaveFunction then { after with halt := none } else after
    | none =>
      if builtins.contains name || callers.contains name then builtin fuel m name args
      else match programs.lookup name with
        | some p =>
          m.absorb (p ⟨args, m.input, m.tree, m.here⟩)
        | none =>
          if name.toList.contains '/' then
            match Files.find m.tree m.here name with
            | .ok (_, .dir _) => m.complain 126 (name ++ ": Is a directory")
            | .ok _ =>
              let last := (Path.pieces name).getLast?.getD ""
              if Text.startsWith name "/bin/" || Text.startsWith name "/usr/bin/" then
                call fuel m last args
              else m.complain 126 (name ++ ": Permission denied")
            | .error e =>
              if Text.startsWith name "/bin/" || Text.startsWith name "/usr/bin/" then
                let last := (Path.pieces name).getLast?.getD ""
                if builtins.contains last || isProgram last then
                  call fuel m last args
                else m.complain 127 (name ++ ": " ++ e.reason)
              else m.complain (if e = .notDirectory then 126 else 127) (name ++ ": " ++ e.reason)
          else m.complain 127 (name ++ ": command not found")

/-- A command that the shell carries out itself. -/
def builtin (fuel : Nat) (m : Machine) (name : String) (args : List String) : Machine :=
  match fuel with
  | 0 => m.stop .exhausted
  | fuel + 1 =>
    let ok := m.withStatus 0
    match name with
    | ":" | "true" | "wait" => ok
    | "umask" => if args = [] then ok.say 1 "0022\n" else ok
    | "trap" =>
      match args with
      | [action, "EXIT"] | [action, "0"] =>
        { ok with atExit := if action = "-" || action = "" then none else some action }
      | _ => ok
    | "false" => m.withStatus 1
    | "echo" => ok.write 1 (Builtin.echo args)
    | "printf" =>
      let args := if args.head? = some "--" then args.drop 1 else args
      match args with
      | "-v" :: target :: format :: rest =>
        (m.set target (Utf8.toStringLossy (Builtin.printf format rest).1)).withStatus 0
      | format :: rest =>
        let (bs, complaints) := Builtin.printf format rest
        let m := m.write 1 bs
        if complaints = [] then m.withStatus 0
        else complaints.foldl (fun m c => m.complain 1 ("printf: " ++ c)) m
      | [] => m.complain 2 "printf: usage: printf [-v var] format [arguments]"
    | "test" =>
      match Builtin.test m.tree m.here (args.length + 1) args with
      | some b => m.withStatus (if b then 0 else 1)
      | none => m.complain 2
        ("test: " ++ String.intercalate " " (args.drop 1) ++ ": unary operator expected")
    | "[" =>
      if args.getLast? ≠ some "]" then m.complain 2 "[: missing \x60]'"
      else
        let inner := args.dropLast
        match Builtin.test m.tree m.here (args.length + 1) inner with
        | some b => m.withStatus (if b then 0 else 1)
        | none =>
          match inner with
          | [a, op, b] =>
            if (integer? a).isNone then m.complain 2 ("[: " ++ a ++ ": integer expression expected")
            else if (integer? b).isNone then
              m.complain 2 ("[: " ++ b ++ ": integer expression expected")
            else m.complain 2 ("[: " ++ op ++ ": binary operator expected")
          | a :: _ => m.complain 2 ("[: " ++ a ++ ": unary operator expected")
          | [] => m.withStatus 1
    | "pwd" => ok.say 1 (m.cwd ++ "\n")
    | "cd" =>
      let target := match args with
        | [] => (m.get? "HOME").getD "/"
        | "-" :: _ => (m.get? "OLDPWD").getD ""
        | "--" :: t :: _ => t
        | t :: _ => t
      let path := Path.join m.cwd target
      -- dots are taken away from the path as it is written
      let clean := (Files.steps path).foldl (fun acc s =>
        if s = "." then acc else if s = ".." then acc.dropLast else acc ++ [s]) ([] : List String)
      let dest := "/" ++ String.intercalate "/" clean
      match Files.find m.tree m.here path with
      | .ok (_, .dir _) =>
        let m := ((m.set "OLDPWD" m.cwd).set "PWD" dest).withStatus 0
        let m := if args = ["-"] then m.say 1 (dest ++ "\n") else m
        { m with cwd := dest }
      | .ok _ => m.complain 1 ("cd: " ++ target ++ ": " ++ FileError.notDirectory.reason)
      | .error e => m.complain 1 ("cd: " ++ target ++ ": " ++ e.reason)
    | "exit" =>
      match args with
      | [] => m.stop .exit
      | n :: _ =>
        match integer? n with
        | some k => (m.withStatus (k % 256).toNat).stop .exit
        | none => (m.complain 2 ("exit: " ++ n ++ ": numeric argument required")).stop .exit
    | "return" =>
      let m := match (args.head?).bind integer? with
        | some k => m.withStatus (k % 256).toNat
        | none => m
      m.stop .leaveFunction
    | "break" => ok.stop (.leaveLoop (((args.head?).bind String.toNat?).getD 1))
    | "continue" => ok.stop (.nextRound (((args.head?).bind String.toNat?).getD 1))
    | "read" =>
      let o := Options.of "pdtnu" args
      let names := if o.operands.isEmpty then ["REPLY"] else o.operands
      let ended := m.input.contains 10
      let rest := if ended then [] else m.input
      let (line, n) := m.readLine
      if n.halt.isSome then n
      else
        let cs := Utf8.decodeLossy (line.getD rest)
        let cs := if o.has 'r' then cs else cs.filter (· ≠ '\\')
        let fields := if o.operands.isEmpty then [cs]
          else Builtin.splitFields m.separators names.length cs
        let n := (names.zipIdx).foldl (fun n (name, i) =>
          n.set name (String.ofList ((fields[i]?).getD []))) n
        n.withStatus (if line.isSome then 0 else 1)
    | "export" | "local" | "declare" | "readonly" =>
      let names := args.filter fun a => !Text.startsWith a "-"
      names.foldl (fun m a =>
        match Text.cut a "=" with
        | some (n, v) =>
          let m := m.set n v
          if name = "export" then { m with exported := n :: m.exported } else m
        | none => if name = "export" then { m with exported := a :: m.exported } else m) ok
    | "unset" => (args.filter fun a => !Text.startsWith a "-").foldl Machine.unset ok
    | "set" =>
      let (options, params) := ShellOption.ofArgs m.options args
      { ok with options := options, params := params.getD m.params }
    | "shift" =>
      let n := ((args.head?).bind String.toNat?).getD 1
      if n ≤ m.params.length then { ok with params := m.params.drop n } else m.withStatus 1
    | "." | "source" =>
      match args with
      | [] => m.complain 2 (name ++ ": filename argument required")
      | file :: rest =>
        match Files.readBytes m.tree m.here file with
        | .error e => m.complain 1 (file ++ ": " ++ e.reason)
        | .ok bs =>
          let params := if rest = [] then m.params else rest
          let after := runScript fuel { ok with params := params, label := file }
            ⟨Utf8.decodeLossy bs, 1⟩
          let after := { after with params := m.params, label := m.label, line := m.line }
          if after.halt = some .leaveFunction then { after with halt := none } else after
    | "eval" => runScript fuel ok (.ofText (String.intercalate " " args).toList m.line)
    | "command" | "exec" =>
      let args := args.filter (· ≠ "--")
      match args with
      | [] => ok
      | "-v" :: n :: _ =>
        if builtins.contains n || reservedWords.contains n || (m.functions.lookup n).isSome then
          ok.say 1 (n ++ "\n")
        else if isProgram n then ok.say 1 ("/usr/bin/" ++ n ++ "\n")
        else m.withStatus 1
      | n :: rest =>
        if name = "exec" && !n.toList.contains '/' && !isProgram n && !standalone.contains n then
          (m.complain 127 ("exec: " ++ n ++ ": not found")).stop .exit
        else
        let m := call fuel { m with functions := m.functions.filter (·.1 ≠ n) } n rest
        if name = "exec" then (if m.halt.isSome then m else m.stop .exit) else m
    | "which" =>
      args.foldl (fun m n =>
        if Text.startsWith n "-" then m
        else if isProgram n then m.say 1 ("/usr/bin/" ++ n ++ "\n")
        else m.withStatus 1) ok
    | "type" =>
      let short := args.head? = some "-t"
      (args.filter (!Text.startsWith · "-")).foldl (fun m n =>
        let answer (kind text : String) : Machine :=
          m.say 1 (if short then kind ++ "\n" else n ++ " is " ++ text ++ "\n")
        if reservedWords.contains n then answer "keyword" "a shell keyword"
        else if (m.functions.lookup n).isSome then answer "function" "a function"
        else if builtins.contains n then answer "builtin" "a shell builtin"
        else if isProgram n then answer "file" ("/usr/bin/" ++ n)
        else if short then m.withStatus 1
        else m.complain 1 ("type: " ++ n ++ ": not found")) ok
    | "let" =>
      args.foldl (fun m a =>
        match calculate fuel m a.toList with
        | (m, some n) => m.withStatus (if n = 0 then 1 else 0)
        | (m, none) => m) ok
    | "xargs" =>
      let o := Options.of "nI" (args.takeWhile fun a => Text.startsWith a "-" || a.toNat?.isSome)
      let command := args.drop (args.takeWhile fun a =>
        Text.startsWith a "-" || a.toNat?.isSome).length
      let command := if command.isEmpty then ["echo"] else command
      let words := Text.words (Utf8.toStringLossy m.input)
      let size := ((o.value? 'n').bind String.toNat?).getD (max words.length 1)
      let rounds := List.range ((words.length + size - 1) / size)
      let rounds := if rounds.isEmpty then [0] else rounds
      let m := { ok with input := [] }
      if m.inputOpen then m.stop .waiting
      else rounds.foldl (fun m i =>
        let own := (words.drop (i * size)).take size
        let after := rejoin m (call fuel m (command.head?.getD "") (command.drop 1 ++ own))
        if after.status = 0 then after.withStatus m.status else after.withStatus 123) m
    | "kill" =>
      let (signal, targets) : Option Nat × List String := match args with
        | "-s" :: s :: rest => (signalNumber s, rest)
        | a :: rest =>
          match Text.dropStart? a "-" with
          | some s => (signalNumber s, rest)
          | none => (some 15, args)
        | [] => (none, [])
      match signal, targets with
      | some 0, _ => ok
      | some n, "4242" :: _ => m.stop (.killed n)
      | some _, t :: _ =>
        match integer? t with
        | some _ => m.complain 1 ("kill: (" ++ t ++ ") - No such process")
        | none => m.complain 1 ("kill: " ++ t ++ ": arguments must be process or job IDs")
      | _, _ => m.complain 2
        ("kill: usage: kill [-s sigspec | -n signum | -sigspec] pid | jobspec ... "
          ++ "or kill -l [sigspec]")
    | "env" =>
      let settings := args.takeWhile (·.toList.contains '=')
      match args.drop settings.length with
      | [] =>
        ok.say 1 (String.join
          ((m.exported.filterMap fun n => (m.get? n).map fun v => n ++ "=" ++ v ++ "\n")))
      | n :: rest =>
        let inner := settings.foldl (fun m a =>
          match Text.cut a "=" with
          | some (k, v) => { m.set k v with exported := k :: m.exported }
          | none => m) m
        rejoin m (call fuel { inner with functions := [] } n rest)
    | "printenv" =>
      match args with
      | [] => ok
      | n :: _ =>
        match m.get? n with
        | some v => if m.exported.contains n then ok.say 1 (v ++ "\n") else m.withStatus 1
        | none => m.withStatus 1
    | _ =>
      -- another shell
      let fresh := { m with
        functions := [], options := [], tests := 0, atExit := none, line := 1, label := "bash"
        vars := m.vars.filter fun p => m.exported.contains p.1 }
      let options := args.takeWhile fun a => Text.startsWith a "-" && a ≠ "-c" && a ≠ "--"
      match args.drop options.length with
      | "-c" :: script :: rest =>
        rejoin m (runScript fuel
          { fresh with
            name := rest.head?.getD name, label := rest.head?.getD name, params := rest.drop 1 }
          (.ofText script.toList 1))
      | "-c" :: [] => m.complain 2 "-c: option requires an argument"
      | file :: rest =>
        match Files.readBytes m.tree m.here file with
        | .ok bs =>
          rejoin m (runScript fuel { fresh with name := file, label := file, params := rest }
            ⟨Utf8.decodeLossy bs, 1⟩)
        | .error .isDirectory =>
          (m.say 2 (name ++ ": " ++ file ++ ": Is a directory\n")).withStatus 126
        | .error e => (m.say 2 (name ++ ": " ++ file ++ ": " ++ e.reason ++ "\n")).withStatus 127
      | [] =>
        if m.inputOpen then m.stop .waiting
        else rejoin m (runScript fuel { fresh with name := name, input := [] }
          ⟨Utf8.decodeLossy m.input, 1⟩)

/-- A simple command. -/
def runSimple (fuel : Nat) (m : Machine) (c : Simple) : Machine :=
  match fuel with
  | 0 => m.stop .exhausted
  | fuel + 1 =>
    let m := { m with line := c.line }
    let before := m.status
    let (m, words) := expandWords fuel m (c.words.flatMap Word.alternatives)
    if m.halt.isSome then m
    else match words with
      | [] =>
        -- the status is that of a command in the words, if there is one
        let hasCommand := (c.words ++ c.settings.map (·.2)).any fun w => w.any fun
          | .command _ _ => true
          | _ => false
        let m := if hasCommand then m else m.withStatus 0
        withRedirects fuel (assign fuel m c.settings) c.redirects fun m => checkStrict m
      | name :: args =>
        let outer := m
        let m := assign fuel { m with status := before } c.settings
        let m := m.trace ((name :: args).map Machine.shownWord)
        let names := c.settings.map (·.1)
        let m := { m with exported := names ++ m.exported }
        let m := withRedirects fuel m c.redirects fun m => call fuel m name args
        let m := if names = [] then m
          else { m with
            exported := outer.exported
            vars := names.filterMap (fun n => (outer.get? n).map fun v => (n, v))
              ++ m.vars.filter fun p => !names.contains p.1 }
        checkStrict m

/-- One command after the other. -/
def runAll (fuel : Nat) (m : Machine) (cs : List Command) : Machine :=
  match fuel with
  | 0 => m.stop .exhausted
  | fuel + 1 =>
    match cs with
    | [] => m
    | c :: rest =>
      let m := run fuel m c
      if m.halt.isSome then m else runAll fuel m rest

/-- The stages of a pipeline, the output of each being the input of the next. -/
def runStages (fuel : Nat) (m : Machine) (cs : List Command) : Machine :=
  match fuel with
  | 0 => m.stop .exhausted
  | fuel + 1 =>
    match cs with
    | [] => m
    | [c] => rejoin m (run fuel m c)
    | c :: rest =>
      let sub := run fuel
        { m with out := [], channels := (1, .out) :: m.channels.filter (·.1 ≠ 1) } c
      let passed := sub.output
      let m := { rejoin m sub with out := m.out }
      if m.halt.isSome then m
      else
        let after := runStages fuel { m with input := passed, inputOpen := false } rest
        let status := if m.has .pipefail && after.status = 0 then sub.status else after.status
        { after with input := m.input, inputOpen := m.inputOpen, status := status }

/-- The rounds of a loop. -/
def runLoop (fuel : Nat) (m : Machine) (untilTrue : Bool) (test body : Command) : Machine :=
  match fuel with
  | 0 => m.stop .exhausted
  | fuel + 1 =>
    let before := m.status
    let t := run fuel { m with tests := m.tests + 1 } test
    let t := { t with tests := m.tests }
    if t.halt.isSome then t
    else if (t.status = 0) == untilTrue then t.withStatus before
    else
      let b := run fuel { t with status := before } body
      match b.halt with
      | some (.leaveLoop n) => if n ≤ 1 then { b with halt := none }
        else b.stop (.leaveLoop (n - 1))
      | some (.nextRound n) =>
        if n ≤ 1 then runLoop fuel { b with halt := none } untilTrue test body
        else b.stop (.nextRound (n - 1))
      | some _ => b
      | none => runLoop fuel b untilTrue test body

/-- A round for each item. -/
def runEach (fuel : Nat) (m : Machine) (name : String) (items : List String) (body : Command) :
    Machine :=
  match fuel with
  | 0 => m.stop .exhausted
  | fuel + 1 =>
    match items with
    | [] => m
    | item :: rest =>
      let b := run fuel (m.set name item) body
      match b.halt with
      | some (.leaveLoop n) => if n ≤ 1 then { b with halt := none }
        else b.stop (.leaveLoop (n - 1))
      | some (.nextRound n) =>
        if n ≤ 1 then runEach fuel { b with halt := none } name rest body
        else b.stop (.nextRound (n - 1))
      | some _ => b
      | none => runEach fuel b name rest body

/-- The arms of an `if`. -/
def runArms (fuel : Nat) (m : Machine) (arms : List (Command × Command))
    (otherwise : Option Command) :
    Machine :=
  match fuel with
  | 0 => m.stop .exhausted
  | fuel + 1 =>
    match arms with
    | [] =>
      match otherwise with
      | some c => run fuel m c
      | none => m.withStatus 0
    | (test, body) :: rest =>
      let t := run fuel { m with tests := m.tests + 1 } test
      let t := { t with tests := m.tests }
      if t.halt.isSome then t
      else if t.status = 0 then run fuel t body
      else runArms fuel t rest otherwise

/-- Whether one of the patterns matches a text. -/
def matchesAny (fuel : Nat) (m : Machine) (text : String) (patterns : List Word) : Machine × Bool :=
  match fuel with
  | 0 => (m.stop .exhausted, false)
  | fuel + 1 =>
    match patterns with
    | [] => (m, false)
    | w :: rest =>
      let (m, f) := expandText fuel m w
      if Glob.matchesText f text then (m, true) else matchesAny fuel m text rest

/-- The arms of a `case`. -/
def runCases (fuel : Nat) (m : Machine) (text : String) (arms : List (List Word × Command)) :
    Machine :=
  match fuel with
  | 0 => m.stop .exhausted
  | fuel + 1 =>
    match arms with
    | [] => m.withStatus 0
    | (patterns, body) :: rest =>
      match matchesAny fuel m text patterns with
      | (m, true) => run fuel (m.withStatus 0) body
      | (m, false) => if m.halt.isSome then m else runCases fuel m text rest

/-- The value of an expression, with its complaint if it has none. -/
def calculate (fuel : Nat) (m : Machine) (expr : List Char) : Machine × Option Int64 :=
  match fuel with
  | 0 => (m.stop .exhausted, none)
  | fuel + 1 =>
    let (m, f) := expandText fuel m (piecesOf expr)
    if m.halt.isSome then (m, none)
    else match Arithmetic.evaluate m.vars f.text.toList with
      | .ok v => ({ m with vars := v.vars }, some v.number)
      | .error .divisionByZero =>
        (m.complain 1 ("((: " ++ f.text ++ ": division by 0 (error token is \"0\")"), none)
      | .error (.badDigit number) =>
        (m.complain 1 ("((: " ++ number ++ ": value too great for base (error token is \""
          ++ number ++ "\")"), none)
      | .error .malformed =>
        (m.complain 1 ("((: " ++ f.text ++ ": syntax error: operand expected"), none)

/-- Whether a condition holds. -/
def decides (fuel : Nat) (m : Machine) (c : Condition) : Machine × Bool :=
  match fuel with
  | 0 => (m.stop .exhausted, false)
  | fuel + 1 =>
    match c with
    | .unary op w =>
      let (m, f) := expandText fuel m w
      if op = "-v" then (m, (m.get? f.text).isSome)
      else (m, (Builtin.condition m.tree m.here [op, f.text]).getD false)
    | .binary op a b =>
      let (m, left) := expandText fuel m a
      let (m, right) := expandText fuel m b
      match op with
      | "=" | "==" => (m, Glob.matchesText right left.text)
      | "!=" => (m, !Glob.matchesText right left.text)
      | "=~" => (m, Regex.hasMatch false (Regex.parse true right.text) true left.text.toList)
      | _ => (m, (Builtin.condition m.tree m.here [left.text, op, right.text]).getD false)
    | .not c =>
      let (m, b) := decides fuel m c
      (m, !b)
    | .and a b =>
      match decides fuel m a with
      | (m, true) => decides fuel m b
      | (m, false) => (m, false)
    | .or a b =>
      match decides fuel m a with
      | (m, true) => (m, true)
      | (m, false) => decides fuel m b

/-- The rounds of a loop with a guard and a step. -/
def runCount (fuel : Nat) (m : Machine) (guard step : List Char) (body : Command) : Machine :=
  match fuel with
  | 0 => m.stop .exhausted
  | fuel + 1 =>
    let (t, n) := if guard.all Text.isBlank then (m, some 1) else calculate fuel m guard
    if t.halt.isSome then t
    else match n with
      | none => t
      | some n =>
        if n = 0 then t
        else
          let b := run fuel t body
          let again (b : Machine) : Machine :=
            let (s, n) := calculate fuel b step
            if n.isNone then s else runCount fuel s guard step body
          match b.halt with
          | some (.leaveLoop n) => if n ≤ 1 then { b with halt := none }
            else b.stop (.leaveLoop (n - 1))
          | some (.nextRound n) =>
            if n ≤ 1 then again { b with halt := none } else b.stop (.nextRound (n - 1))
          | some _ => b
          | none => again b

/-- One command. -/
def run (fuel : Nat) (m : Machine) (c : Command) : Machine :=
  match fuel with
  | 0 => m.stop .exhausted
  | fuel + 1 =>
    if m.halt.isSome then m
    else match c with
      | .simple s => runSimple fuel m s
      | .pipeline negated stages =>
        let m' := if negated then { m with tests := m.tests + 1 } else m
        let after := match stages with
          | [c] => run fuel m' c
          | cs => runStages fuel m' cs
        let after := { after with tests := m.tests }
        if negated && after.halt.isNone then after.withStatus (if after.status = 0 then 1 else 0)
        else checkStrict after
      | .both a b =>
        let l := run fuel { m with tests := m.tests + 1 } a
        let l := { l with tests := m.tests }
        if l.halt.isSome || l.status ≠ 0 then l else run fuel l b
      | .either a b =>
        let l := run fuel { m with tests := m.tests + 1 } a
        let l := { l with tests := m.tests }
        if l.halt.isSome || l.status = 0 then l else run fuel l b
      | .sequence cs => runAll fuel m cs
      | .background c =>
        (rejoin m (run fuel { m with input := [], inputOpen := false } c)).withStatus 0
      | .subshell body rs =>
        withRedirects fuel m rs fun m => rejoin m (run fuel m body)
      | .group body rs => withRedirects fuel m rs fun m => run fuel m body
      | .branch arms otherwise rs => withRedirects fuel m rs fun m => runArms fuel m arms otherwise
      | .loop untilTrue test body rs =>
        withRedirects fuel m rs fun m => runLoop fuel (m.withStatus 0) untilTrue test body
      | .each name items body rs =>
        withRedirects fuel m rs fun m =>
          let (m, values) := match items with
            | some ws => expandWords fuel m (ws.flatMap Word.alternatives)
            | none => (m, m.params)
          if m.halt.isSome then m else runEach fuel (m.withStatus 0) name values body
      | .select w arms rs =>
        withRedirects fuel m rs fun m =>
          let (m, f) := expandText fuel m w
          if m.halt.isSome then m else runCases fuel m f.text arms
      | .decide c =>
        let (m, b) := decides fuel m c
        if m.halt.isSome then m else checkStrict (m.withStatus (if b then 0 else 1))
      | .calculate expr =>
        match calculate fuel m expr with
        | (m, some n) => checkStrict (m.withStatus (if n = 0 then 1 else 0))
        | (m, none) => checkStrict m
      | .count start guard step body rs =>
        withRedirects fuel m rs fun m =>
          match calculate fuel m start with
          | (m, some _) => runCount fuel (m.withStatus 0) guard step body
          | (m, none) => m
      | .define name body => { m with functions := (name, body) :: m.functions, status := 0 }

/-- A script, line by line. -/
def runScript (fuel : Nat) (m : Machine) (s : Source) : Machine :=
  match fuel with
  | 0 => m.stop .exhausted
  | fuel + 1 =>
    match parseNext s with
    | .ok (none, _) => m
    | .ok (some c, t) =>
      let m := run fuel m c
      if m.halt.isSome then m else runScript fuel m t
    | .error fault =>
      let shown (line : Nat) (text : String) : Machine → Machine := fun m =>
        m.say 2 (m.label ++ ": " ++ (if m.label = "bash" then "-c: " else "") ++ "line "
          ++ toString line ++ ": " ++ text ++ "\n")
      let lines := s.rest.splitOn '\n'
      let lastLine := s.line + lines.length - 1
      let unmatched (line : Nat) (q : String) : Machine → Machine :=
        shown line ("unexpected EOF while looking for matching \x60" ++ q ++ "'")
      let m := match fault with
        | .unexpected token line =>
          let lineText := String.ofList ((lines[line - s.line]?).getD [])
          shown line ("\x60" ++ lineText ++ "'")
            (shown line ("syntax error near unexpected token \x60" ++ token ++ "'") m)
        | .endOfFile => shown lastLine "syntax error: unexpected end of file" m
        | .unmatched q line => unmatched line q m
        | .unclosedCommand => unmatched lastLine ")" m
      (m.withStatus 2).stop .exit

end

/-- Runs a script that is given as text, and what it left to be run at its end. -/
def Machine.runText (m : Machine) (script : String) : Machine :=
  let after := runScript fuelLimit m (.ofText script.toList 1)
  match after.atExit, after.halt with
  | some action, none | some action, some .exit =>
    let last := runScript fuelLimit { after with halt := none, atExit := none }
      (.ofText action.toList 1)
    if last.halt.isSome then last else last.withStatus after.status
  | _, _ => after

end ToolAgent.Shell
