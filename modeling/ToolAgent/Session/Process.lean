import ToolAgent.Session.Batch
import ToolAgent.Turn

/-!
# A turn of the user

The user says something; the model answers, and as long as it asks for tools, they are run and their
results sent back. The rounds of tools are limited: what the model asks for beyond the limit is
answered with failures, and the turn is closed.
-/

namespace ToolAgent

/-- The result of a tool use beyond the limit. -/
def skippedText (rounds : Nat) : String :=
  String.join ["Tool use skipped: limit of ", toString rounds, " tool rounds reached"]

/-- What stands for the assistant's answer at the limit. -/
def stoppedText (rounds : Nat) : String :=
  String.join ["Stopped after ", toString rounds, " tool rounds."]

/-- The turn after a response. -/
def Turn.receive (t : Turn) (r : Response) : Turn := (t.recordUsage r.usage).pushText r.text

/-- The turn after a round of tools, in which these ran. -/
def Turn.completeRound (t : Turn) (ran : List Execution) : Turn :=
  (ran.foldl recordExecution t).nextRound

/-- A response changes the text and the tokens of a turn, and nothing else. -/
theorem Turn.exists_receive_eq (t : Turn) (r : Response) :
    ∃ text usage, t.receive r = { t with text, usage } := by
  have husage : ∃ usage, t.recordUsage r.usage = { t with usage } := by
    cases r.usage with
    | none => exact ⟨t.usage, rfl⟩
    | some u => exact ⟨_, rfl⟩
  obtain ⟨usage, husage⟩ := husage
  rw [receive, husage, pushText]
  split
  · exact ⟨t.text, usage, rfl⟩
  · split
    · exact ⟨r.text, usage, rfl⟩
    · exact ⟨_, usage, rfl⟩

theorem Turn.foldl_recordExecution (t : Turn) (ran : List Execution) :
    ran.foldl recordExecution t = { t with executions := t.executions ++ ran } := by
  induction ran generalizing t with
  | nil => rw [List.foldl_nil, List.append_nil]
  | cons e ran ih => rw [List.foldl_cons, ih, recordExecution, List.append_assoc]; rfl

theorem Turn.completeRound_eq (t : Turn) (ran : List Execution) :
    t.completeRound ran =
      { t with round := t.round + 1, executions := t.executions ++ ran } := by
  rw [completeRound, foldl_recordExecution, nextRound]

theorem Turn.rounds_left_lt {t : Turn} (h : t.canRunTools) (r : Response) (ran : List Execution) :
    ((t.receive r).completeRound ran).maxRounds - ((t.receive r).completeRound ran).round
      < t.maxRounds - t.round := by
  simp only [canRunTools, decide_eq_true_eq] at h
  obtain ⟨text, usage, hreceive⟩ := t.exists_receive_eq r
  rw [hreceive, completeRound_eq]
  show t.maxRounds - (t.round + 1) < t.maxRounds - t.round
  omega

namespace Session

variable {τ μ α π : Type} [Workbench τ π] [ChatModel μ] [Approver α]

/-- Answers tool uses beyond the limit and closes the exchange. -/
def closeAtLimit (uses : List ToolUse) (rounds : Nat) (s : Session τ μ α) :
    Except Error (Session τ μ α) :=
  let results := uses.map fun use => ToolResult.failure use.id (skippedText rounds)
  { s with conversation := s.conversation.addResults results }.answer
    (.response none (stoppedText rounds))

/-- Goes on with a turn until the model asks for no more tools, or may not. -/
def continueTurn (t : Turn) (s : Session τ μ α) : Except Error Outcome × Session τ μ α :=
  match s.converse with
  | (.error e, s) => (.error e, s)
  | (.ok r, s) =>
    if r.toolUses = [] then
      match s.answer (.response none r.text) with
      | .error e => (.error e, s)
      | .ok s => (.ok ((t.receive r).outcome false), s)
    else
      match s.answer (.toolRequest none r.text r.toolUses) with
      | .error e => (.error e, s)
      | .ok s =>
        if h : t.canRunTools then
          let (ran, s) := s.runBatch r.toolUses
          continueTurn ((t.receive r).completeRound ran) s
        else
          match s.closeAtLimit r.toolUses t.round with
          | .error e => (.error e, s)
          | .ok s => (.ok ((t.receive r).outcome true), s)
termination_by t.maxRounds - t.round
decreasing_by exact Turn.rounds_left_lt h r _

/-- Runs a turn: the user says `input`. -/
def process (input : String) (s : Session τ μ α) : Except Error Outcome × Session τ μ α :=
  continueTurn (Turn.start s.config.tools.maxRounds.toNat)
    { s with conversation := s.conversation.say input }

end Session

end ToolAgent
