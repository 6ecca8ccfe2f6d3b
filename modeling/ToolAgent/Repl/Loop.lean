import ToolAgent.Repl.Terminal
import ToolAgent.Session.Command

/-!
# The dialogue with the user

The program reads a line at a time: blank lines are passed over, commands are carried out, and
anything else is run as a turn. The dialogue ends with a command to quit or with the input.
Questions on the way take their answers from the same lines, so that each line is read once, in
order.
-/

namespace ToolAgent

/-- A text that was printed. -/
inductive Printed
  | out (text : String)
  | err (text : String)
deriving DecidableEq, Repr

namespace Printed

/-- All that was printed as ordinary output. -/
def output (ps : List Printed) : String :=
  String.join (ps.map fun
    | out text => text
    | err _ => "")

/-- All that was printed as errors. -/
def errors (ps : List Printed) : String :=
  String.join (ps.map fun
    | out _ => ""
    | err text => text)

end Printed

/-- What is printed of an act while it is done. -/
def Act.print : Act → List Printed
  | .said text => [.out text]
  | .asked use description _ =>
    [.out ("\n\nTool: " ++ use.name ++ "\n" ++ description ++ "\nAllow this action? [y/n/t]: ")]
  | .sent _ => []
  | .invoked _ _ _ => []

/-- What is printed of a turn that is over. -/
def Outcome.print (o : Outcome) : List Printed :=
  o.toolsExecuted.map (fun e =>
    .out ("  " ++ (if e.success then "✓ " else "✗ ") ++ e.toolName ++ "\n"))
    ++ (if o.stoppedEarly then
        [.out ("\n[Stopped after " ++ toString o.toolRounds
          ++ " tool rounds. Ask me to continue if needed.]\n")]
      else [])
    ++ [.out "\n"]

namespace Session

variable {τ μ π : Type}

theorem approver_compact [ChatModel μ] (s : Session τ μ Terminal) :
    s.compact.2.approver = s.approver := by
  have sent := approver_send s s.compactionRequest
  unfold compact
  generalize s.send s.compactionRequest = answer at sent ⊢
  by_cases h : s.conversation.history = []
  · rw [if_pos h]
  · rw [if_neg h]
    dsimp only
    split
    · exact sent
    · split <;> exact sent

theorem approver_runToolsCommand (s : Session τ μ Terminal) (c : ToolsCommand) :
    (s.runToolsCommand c).2.approver = s.approver := by
  cases c <;> simp only [runToolsCommand]
  split <;> rfl

theorem approver_runCommand [ChatModel μ] (s : Session τ μ Terminal) (c : Command) :
    (s.runCommand c).2.approver = s.approver := by
  cases c <;> simp only [runCommand]
  case clear => simp only [clear]
  case tools => exact approver_runToolsCommand s _
  case compact =>
    have compacted := approver_compact s
    split <;> next h => simpa [h] using compacted

theorem approver_handleLine [ChatModel μ] (s : Session τ μ Terminal) (line : String) :
    (s.handleLine line).2.approver = s.approver := by
  unfold handleLine
  split
  · exact approver_runCommand s _
  · rfl

end Session

namespace Repl

variable {τ μ π : Type} [Workbench τ π] [ChatModel μ]

/-- What is printed at the start. -/
def banner (s : Session τ μ Terminal) : List Printed :=
  [.out (programTitle ++ " " ++ programVersion ++ "\n"),
    .out ("Model:    " ++ s.config.model.name ++ " at " ++ s.config.modelUrl ++ "\n"),
    .out ("Tools:    " ++ toString s.toolSpecs.length ++ "\n\n"),
    .out ("Commands: /help, /tools, /compact, /status, /quit\n" ++ dashes 45 ++ "\n")]

/-- What is printed before a line is read. -/
def prompt : Printed := .out "You: "

/-- What is said when the input ends. -/
def farewell : Printed := .out "\nGoodbye!\n"

/-- Runs a turn: what is printed of it. -/
def runTurn (s : Session τ μ Terminal) (input : String) : List Printed × Session τ μ Terminal :=
  let (result, after) := s.process input
  let acts := after.acts.drop s.acts.length
  let ending := match result with
    | .ok outcome => outcome.print
    | .error e => [.err ("\nError: " ++ e.message ++ "\n\n")]
  (.out "\nAssistant:\n" :: acts.flatMap Act.print ++ .out "\n" :: ending, after)

/-- Does what a line says: what is printed, and whether the dialogue goes on. -/
def runLine (s : Session τ μ Terminal) (line : String) :
    List Printed × Bool × Session τ μ Terminal :=
  match s.handleLine line with
  | (.ok .exit, s) => ([farewell], false, s)
  | (.ok .cleared, s) => ([.out "Conversation cleared.\n\n"], true, s)
  | (.ok (.done text), s) => ([.out (text ++ "\n\n")], true, s)
  | (.ok (.message text), s) =>
    let (printed, s) := runTurn s text
    (printed, true, s)
  | (.error e, s) => ([.err ("Command error: " ++ e.message ++ "\n\n")], true, s)

theorem unread_runLine (s : Session τ μ Terminal) (line : String) :
    (runLine s line).2.2.approver.unread <:+ s.approver.unread := by
  have handled := s.approver_handleLine line
  unfold runLine
  split
  case h_4 text t h =>
    rw [h] at handled
    exact (t.unread_process text).trans (handled ▸ List.suffix_refl _)
  all_goals next h => simp_all

/-- Takes a line of input: what is printed, and whether the dialogue goes on. -/
def runInput (s : Session τ μ Terminal) : InputLine → List Printed × Bool × Session τ μ Terminal
  | none => ([.err "Error reading input: stream did not contain valid UTF-8\n"], true, s)
  | some line =>
    let text := Text.trim line
    if text = "" then ([], true, s) else runLine s text

theorem unread_runInput (s : Session τ μ Terminal) (line : InputLine) :
    (runInput s line).2.2.approver.unread <:+ s.approver.unread := by
  cases line with
  | none => exact List.suffix_refl _
  | some line =>
    simp only [runInput]
    split
    · exact List.suffix_refl _
    · exact unread_runLine s _

/-- The dialogue after the start. -/
def converse (s : Session τ μ Terminal) : List Printed × Session τ μ Terminal :=
  match h : s.approver.unread with
  | [] => ([prompt, farewell], s)
  | line :: rest =>
    let step := runInput { s with approver := ⟨rest⟩ } line
    if step.2.1 then
      let (printed, last) := converse step.2.2
      (prompt :: step.1 ++ printed, last)
    else (prompt :: step.1, step.2.2)
termination_by s.approver.unread.length
decreasing_by
  have := (unread_runInput { s with approver := ⟨rest⟩ } line).length_le
  simp only [h, List.length_cons]
  exact Nat.lt_succ_of_le this

/-- The dialogue: all that is printed, and the session at the end. -/
def run (s : Session τ μ Terminal) : List Printed × Session τ μ Terminal :=
  let (printed, last) := converse s
  (banner s ++ printed, last)

end Repl

end ToolAgent
