import ToolAgent.Proofs.Repl.Answering
import ToolAgent.Proofs.Session.Account
import ToolAgent.Proofs.Session.Commands
import ToolAgent.Proofs.Text.Lines
import ToolAgent.Repl.Loop

/-!
# The dialogue reads its input

Two readers share the input: the dialogue, which reads a line at its prompt, and the questions of
the turns that it runs. This module says what becomes of each line, and that the dialogue stops.

* `Typed` — the lines of an input.
* `Reading` — a line that was read at the prompt, and the lines after it that answered questions.
* `Handles` — what the dialogue does with a line, and `Proceeds` — how it goes on, line by line,
  until a command to quit or the end of the input. Each line is read once, in order
  (`Proceeds.lines`), and each asks for a limited number of requests (`Proceeds.sends`).
* `run_consumes` — the dialogue proceeds so on every input.
-/

namespace ToolAgent

/-! ## Lines -/

/-- The lines of an input: each goes up to a line end, the last one perhaps to the end of the
input. -/
inductive Typed : Bytes → List InputLine → Prop
  | nothing : Typed [] []
  | last {text : Bytes} : text ≠ [] → 10 ∉ text → Typed text [Utf8.toString? text]
  | line {text more : Bytes} {lines : List InputLine} : 10 ∉ text → Typed more lines →
      Typed (text ++ 10 :: more) (Utf8.toString? text :: lines)

theorem Terminal.typed_ofBytes (input : Bytes) : Typed input (ofBytes input).unread := by
  -- The input gets shorter by a line at a time.
  induction hlength : input.length using Nat.strong_induction_on generalizing input with
  | _ n ih =>
      have hopen {text : Bytes} (htext : 10 ∉ text) : ∀ b ∈ text, (b == (10 : UInt8)) = false :=
        fun b hb => beq_false_of_ne fun hten => htext (hten ▸ hb)
      by_cases hmem : 10 ∈ input
      · obtain ⟨text, more, rfl, htext⟩ := List.eq_append_cons_of_mem hmem
        have hmore := ih more.length (by simp at hlength; omega) more rfl
        rw [ofBytes, Text.completeLines_line_append (hopen htext) rfl]
        exact .line htext hmore
      · rw [ofBytes, Text.completeLines_of_none (hopen hmem)]
        by_cases hempty : input = []
        · subst hempty
          exact .nothing
        · simp only [hempty, if_false]
          exact .last hempty hmem

/-! ## Commands -/

namespace Session

variable {τ μ α : Type} [ChatModel μ]

/-- A command is not passed on, and only a command to quit ends the dialogue. -/
theorem reply_runCommand (s : Session τ μ α) {c : Command} (hc : c ≠ .quit) :
    (∀ text, (s.runCommand c).1 ≠ .ok (.message text)) ∧ (s.runCommand c).1 ≠ .ok .exit := by
  cases c with
  | quit => exact absurd rfl hc
  | compact =>
      dsimp only [runCommand]
      rcases s.compact with ⟨_ | _ | _, _⟩ <;> exact ⟨nofun, nofun⟩
  | models =>
      dsimp only [runCommand]
      cases (ChatModel.models s.model).1 <;> exact ⟨nofun, nofun⟩
  | clear => exact ⟨nofun, nofun⟩
  | help => exact ⟨nofun, nofun⟩
  | tools c => exact ⟨nofun, nofun⟩
  | status => exact ⟨nofun, nofun⟩
  | unknown word => exact ⟨nofun, nofun⟩

/-- A compaction sends one request at most. -/
theorem sends_compact (s : Session τ μ α) :
    s.compact.2.config = s.config ∧
      ∃ requests, Sends s s.compact.2 requests ∧ requests.length ≤ 1 := by
  have hasked {after : Session τ μ α} (hacts : after.acts = s.asked.acts) :
      ∃ requests, Sends s after requests ∧ requests.length ≤ 1 :=
    ⟨[s.compactionRequest], ⟨[.sent s.compactionRequest], hacts, rfl⟩, Nat.le_refl 1⟩
  rcases s.compact_cases with ⟨_, -, hafter⟩ | ⟨-, hafter | hafter⟩
  · rw [hafter]
    exact ⟨rfl, hasked rfl⟩
  · rw [hafter]
    exact ⟨rfl, [], .of_acts_eq rfl, Nat.zero_le 1⟩
  · rw [hafter]
    exact ⟨rfl, hasked rfl⟩

/-- A command sends one request at most, and leaves the configuration as it is. -/
theorem sends_handleLine (s : Session τ μ α) (line : String) :
    (s.handleLine line).2.config = s.config ∧
      ∃ requests, Sends s (s.handleLine line).2 requests ∧ requests.length ≤ 1 := by
  have hsilent {after : Session τ μ α} (hacts : after.acts = s.acts) :
      ∃ requests, Sends s after requests ∧ requests.length ≤ 1 :=
    ⟨[], .of_acts_eq hacts, Nat.zero_le 1⟩
  rw [handleLine]
  split
  · next c _ =>
      cases c with
      | compact =>
          rw [s.runCommand_compact]
          exact s.sends_compact
      | tools c =>
          have hframe : (s.runCommand (.tools c)).2 = (s.runToolsCommand c).2 := rfl
          rw [hframe, s.runToolsCommand_eq]
          exact ⟨rfl, hsilent rfl⟩
      | quit => exact ⟨rfl, hsilent rfl⟩
      | clear => exact ⟨rfl, hsilent rfl⟩
      | help => exact ⟨rfl, hsilent rfl⟩
      | models => exact ⟨rfl, hsilent rfl⟩
      | status => exact ⟨rfl, hsilent rfl⟩
      | unknown word => exact ⟨rfl, hsilent rfl⟩
  · exact ⟨rfl, hsilent rfl⟩

end Session

namespace Repl

variable {τ μ π : Type}

/-! ## What becomes of a line -/

/-- A line that was read at the prompt, and the lines after it that were read as answers. -/
structure Reading where
  line : InputLine
  answers : List InputLine

/-- The lines that were read, in order. -/
def Reading.lines (r : Reading) : List InputLine := r.line :: r.answers

/-- The line at the prompt was a command to quit. -/
def Reading.Quits (r : Reading) : Prop := ∃ line, r.line = some line ∧ ToolAgent.Quits line

variable [Workbench τ π] [ChatModel μ]

/-- What the dialogue does with a line that does not quit: the session after it, and the lines that
were read on the way. -/
inductive Handles (s : Session τ μ Terminal) : Reading → Session τ μ Terminal → Prop
  /-- What is no text is passed over. -/
  | unreadable : Handles s ⟨none, []⟩ s
  | blank {line : String} : Text.trim line = "" → Handles s ⟨some line, []⟩ s
  | command {line word args : String} : Calls line word args → ¬ Quits line →
      Handles s ⟨some line, []⟩ (s.handleLine line).2
  /-- Anything else is run as a turn, and only the questions of the turn read lines. -/
  | turn {line : String} {answers : List InputLine} {log : List Act} :
      Text.trim line ≠ "" → (∀ text, Text.trim line ≠ "/" ++ text) →
      (s.process (Text.trim line)).2.acts = s.acts ++ log →
      Reads s.approver.unread log (s.process (Text.trim line)).2.approver.unread →
      s.approver.unread = answers ++ (s.process (Text.trim line)).2.approver.unread →
      Handles s ⟨some line, answers⟩ (s.process (Text.trim line)).2

/-- How the dialogue goes on from a session, and the session at its end. -/
inductive Proceeds : Session τ μ Terminal → List Reading → Session τ μ Terminal → Prop
  /-- The input has ended. -/
  | ended {s} : s.approver.unread = [] → Proceeds s [] s
  | quit {s line rest} : s.approver.unread = some line :: rest → Quits line →
      Proceeds s [⟨some line, []⟩] { s with approver := ⟨rest⟩ }
  | step {s line rest answers after readings last} : s.approver.unread = line :: rest →
      Handles { s with approver := ⟨rest⟩ } ⟨line, answers⟩ after →
      Proceeds after readings last → Proceeds s (⟨line, answers⟩ :: readings) last

namespace Handles

variable {s after : Session τ μ Terminal} {r : Reading}

theorem lines (h : Handles s r after) :
    s.approver.unread = r.answers ++ after.approver.unread := by
  cases h with
  | unreadable => rfl
  | blank _ => rfl
  | @command line _ _ _ _ =>
      rw [s.approver_handleLine line]
      rfl
  | turn _ _ _ _ hlines => exact hlines

theorem not_quits (h : Handles s r after) : ¬ r.Quits := by
  rintro ⟨line, hline, hquits⟩
  obtain ⟨word, args, ⟨text, htext, -⟩, -⟩ := id hquits
  cases h with
  | unreadable => cases hline
  | blank hblank =>
      obtain rfl := Option.some.inj hline
      rw [hblank] at htext
      have hempty := congrArg String.toList htext
      simp at hempty
  | command _ hstays =>
      obtain rfl := Option.some.inj hline
      exact hstays hquits
  | turn _ hpasses _ _ _ =>
      obtain rfl := Option.some.inj hline
      exact hpasses text htext

theorem config (h : Handles s r after) : after.config = s.config := by
  cases h with
  | unreadable => rfl
  | blank _ => rfl
  | command _ _ => exact (s.sends_handleLine _).1
  | turn _ _ _ _ _ => exact s.config_process _

/-- **A line asks for one request and one more for each round of tools**, at most. -/
theorem sends (h : Handles s r after) : ∃ requests, Session.Sends s after requests ∧
    requests.length ≤ s.config.tools.maxRounds.toNat + 1 := by
  cases h with
  | unreadable => exact ⟨[], .of_acts_eq rfl, Nat.zero_le _⟩
  | blank _ => exact ⟨[], .of_acts_eq rfl, Nat.zero_le _⟩
  | command _ _ =>
      obtain ⟨-, requests, hsends, hone⟩ := s.sends_handleLine _
      exact ⟨requests, hsends, by omega⟩
  | @turn line answers log _ _ hacts _ _ =>
      have hsends : Session.Sends s (s.process (Text.trim line)).2 (log.filterMap Act.request?) :=
        ⟨log, hacts, rfl⟩
      obtain ⟨rounds, _, _, -, -, hlength, hlimit, -⟩ := s.process_accounts (Text.trim line)
      refine ⟨_, hsends, ?_⟩
      rw [← hsends.requests_eq]
      exact hlength.trans_le (Nat.succ_le_succ hlimit)

end Handles

namespace Proceeds

variable {s last : Session τ μ Terminal} {readings : List Reading}

/-- **Each line is read once, in order**, until the dialogue stops. -/
theorem lines (h : Proceeds s readings last) :
    s.approver.unread = readings.flatMap Reading.lines ++ last.approver.unread := by
  induction h with
  | ended _ => rfl
  | quit hunread _ => exact hunread
  | @step s line rest answers after readings last hunread hhandles _ ih =>
      have hrest := hhandles.lines
      rw [List.flatMap_cons, Reading.lines, List.append_assoc, ← ih, hunread]
      exact congrArg (line :: ·) hrest

/-- No more lines are read at the prompt than there are. -/
theorem length_le (h : Proceeds s readings last) : readings.length ≤ s.approver.unread.length := by
  induction h with
  | ended _ => exact Nat.zero_le _
  | quit hunread _ =>
      rw [hunread]
      exact Nat.succ_le_succ (Nat.zero_le _)
  | @step s line rest answers after readings last hunread hhandles _ ih =>
      have hrest : rest = answers ++ after.approver.unread := hhandles.lines
      rw [hunread, hrest, List.length_cons, List.length_cons, List.length_append]
      omega

/-- **The dialogue stops at the first command to quit**, or with the input. -/
theorem stops (h : Proceeds s readings last) :
    (∃ earlier r, readings = earlier ++ [r] ∧ r.Quits ∧ ∀ r ∈ earlier, ¬ r.Quits) ∨
      last.approver.unread = [] ∧ ∀ r ∈ readings, ¬ r.Quits := by
  induction h with
  | ended hempty => exact .inr ⟨hempty, nofun⟩
  | quit _ hquits => exact .inl ⟨[], _, rfl, ⟨_, rfl, hquits⟩, nofun⟩
  | step _ hhandles _ ih =>
      rcases ih with ⟨earlier, r, rfl, hquits, hearlier⟩ | ⟨hempty, hnone⟩
      · exact .inl ⟨_ :: earlier, r, rfl, hquits,
          List.forall_mem_cons.mpr ⟨hhandles.not_quits, hearlier⟩⟩
      · exact .inr ⟨hempty, List.forall_mem_cons.mpr ⟨hhandles.not_quits, hnone⟩⟩

/-- **The requests of a dialogue** are limited by the lines that are read at the prompt. -/
theorem sends (h : Proceeds s readings last) : ∃ requests, Session.Sends s last requests ∧
    requests.length ≤ readings.length * (s.config.tools.maxRounds.toNat + 1) := by
  induction h with
  | ended _ => exact ⟨[], .of_acts_eq rfl, Nat.zero_le _⟩
  | quit _ _ => exact ⟨[], .of_acts_eq rfl, Nat.zero_le _⟩
  | @step s line rest answers after readings last _ hhandles _ ih =>
      obtain ⟨first, hfirst, hlimit⟩ := hhandles.sends
      obtain ⟨later, hlater, hlimits⟩ := ih
      have hsends : Session.Sends s after first := hfirst
      refine ⟨first ++ later, hsends.trans hlater, ?_⟩
      rw [hhandles.config] at hlimits
      rw [List.length_append, List.length_cons, Nat.succ_mul, Nat.add_comm]
      exact Nat.add_le_add hlimits hlimit

end Proceeds

/-! ## The dialogue -/

section Line

variable {s : Session τ μ Terminal} {line : String}

theorem runLine_of_quits (h : Quits line) : runLine s line = ([farewell], false, s) := by
  have hline : s.handleLine line = (.ok .exit, s) := by
    rw [Session.handleLine, ofLine?_eq_quit_iff.mpr h]
    rfl
  rw [runLine, hline]

theorem runLine_of_calls {word args : String} (h : Calls line word args) (hstays : ¬ Quits line) :
    ∃ printed, runLine s line = (printed, true, (s.handleLine line).2) := by
  obtain ⟨hmessage, hexit⟩ : (∀ text, (s.handleLine line).1 ≠ .ok (.message text)) ∧
      (s.handleLine line).1 ≠ .ok .exit := by
    have hcommand := ofLine?_of_calls h
    rw [Session.handleLine, hcommand]
    refine s.reply_runCommand fun hquit => hstays (ofLine?_eq_quit_iff.mp ?_)
    rw [hcommand, hquit]
  rw [runLine]
  split
  · next hline => exact absurd (congrArg Prod.fst hline) hexit
  · next hline => rw [hline]; exact ⟨_, rfl⟩
  · next hline => rw [hline]; exact ⟨_, rfl⟩
  · next hline => exact absurd (congrArg Prod.fst hline) (hmessage _)
  · next hline => rw [hline]; exact ⟨_, rfl⟩

theorem runLine_of_passes (h : ∀ text, Text.trim line ≠ "/" ++ text) :
    ∃ printed, runLine s line = (printed, true, (s.process (Text.trim line)).2) := by
  have hline : s.handleLine line = (.ok (.message (Text.trim line)), s) := by
    rw [Session.handleLine, ofLine?_eq_none h]
  rw [runLine, hline]
  exact ⟨_, rfl⟩

theorem calls_trim_iff {word args : String} :
    Calls (Text.trim line) word args ↔ Calls line word args := by
  rw [Calls, Text.trim_trim, Calls]

theorem quits_trim_iff : Quits (Text.trim line) ↔ Quits line := by
  simp only [Quits, calls_trim_iff]

end Line

/-- **A line quits or is handled.** -/
theorem runInput_spec (s : Session τ μ Terminal) (line : InputLine) :
    (∃ text, line = some text ∧ Quits text ∧ runInput s line = ([farewell], false, s)) ∨
      ∃ printed answers after, runInput s line = (printed, true, after) ∧
        Handles s ⟨line, answers⟩ after := by
  cases line with
  | none => exact .inr ⟨_, _, _, rfl, .unreadable⟩
  | some line =>
      simp only [runInput]
      by_cases hblank : Text.trim line = ""
      · rw [if_pos hblank]
        exact .inr ⟨_, _, _, rfl, .blank hblank⟩
      · rw [if_neg hblank]
        rcases exists_calls_or line with ⟨word, args, hcalls⟩ | hpasses
        · by_cases hquits : Quits line
          · exact .inl ⟨line, rfl, hquits, runLine_of_quits (quits_trim_iff.mpr hquits)⟩
          · obtain ⟨printed, hrun⟩ := runLine_of_calls (s := s) (calls_trim_iff.mpr hcalls)
              (quits_trim_iff.not.mpr hquits)
            -- The spaces around a command do not matter to it.
            have hsame : s.handleLine (Text.trim line) = s.handleLine line := by
              rw [Session.handleLine, Session.handleLine, Command.ofLine?, Command.ofLine?,
                Text.trim_trim]
            rw [hsame] at hrun
            exact .inr ⟨printed, [], _, hrun, .command hcalls hquits⟩
        · have htrimmed : ∀ text, Text.trim (Text.trim line) ≠ "/" ++ text := by
            rwa [Text.trim_trim]
          obtain ⟨printed, hrun⟩ := runLine_of_passes (s := s) htrimmed
          rw [Text.trim_trim] at hrun
          obtain ⟨log, hacts, hreads⟩ := s.reads_process (Text.trim line)
          obtain ⟨answers, hanswers⟩ := hreads.suffix
          exact .inr ⟨printed, answers, _, hrun,
            .turn hblank hpasses hacts hreads hanswers.symm⟩

/-- **The dialogue proceeds to its end**, and says goodbye. -/
theorem exists_proceeds (s : Session τ μ Terminal) :
    (converse s).1.getLast? = some farewell ∧ ∃ readings, Proceeds s readings (converse s).2 := by
  -- There are fewer unread lines after each step, since one was read at the prompt.
  fun_induction converse s with
  | case1 s hunread => exact ⟨rfl, [], .ended hunread⟩
  | case2 s line rest hunread step hgoes printed last hconverse ih =>
      obtain ⟨hsaid, readings, hproceeds⟩ := ih
      rw [hconverse] at hsaid hproceeds
      rcases runInput_spec { s with approver := ⟨rest⟩ } line with
        ⟨_, -, -, hrun⟩ | ⟨_, answers, after, hrun, hhandles⟩
      · rw [show step = _ from hrun] at hgoes
        cases hgoes
      · rw [show step = _ from hrun] at hproceeds
        refine ⟨?_, _, .step hunread hhandles hproceeds⟩
        dsimp only at hsaid ⊢
        rw [List.getLast?_append, hsaid, Option.some_or]
  | case3 s line rest hunread step hends =>
      rcases runInput_spec { s with approver := ⟨rest⟩ } line with
        ⟨text, rfl, hquits, hrun⟩ | ⟨_, answers, after, hrun, hhandles⟩
      · rw [show step = _ from hrun]
        exact ⟨rfl, _, .quit hunread hquits⟩
      · rw [show step = _ from hrun] at hends
        exact absurd rfl hends

/-- What the dialogue makes of the lines that were not read yet. -/
structure Consumes (s : Session τ μ Terminal) (readings : List Reading)
    (last : Session τ μ Terminal) : Prop where
  /-- Each line is handled in turn, and some of them are answers to questions of the turns. -/
  proceeds : Proceeds s readings last
  /-- Each line is read once, in order, up to where the dialogue stops. -/
  lines : s.approver.unread = readings.flatMap Reading.lines ++ last.approver.unread
  /-- The dialogue stops at the first command to quit, or with the input. -/
  stops : (∃ earlier r, readings = earlier ++ [r] ∧ r.Quits ∧ ∀ r ∈ earlier, ¬ r.Quits) ∨
    last.approver.unread = [] ∧ ∀ r ∈ readings, ¬ r.Quits
  /-- There are no more requests than the lines and the limit of rounds allow. -/
  requests : ∃ requests, Session.Sends s last requests ∧
    requests.length ≤ s.approver.unread.length * (s.config.tools.maxRounds.toNat + 1)

/-- **The dialogue consumes its input and stops.** Whatever the user types, the model answers and
the tools do, the dialogue comes to an end, and says goodbye there: at the first command to quit
that it reads at its prompt, or with the input. Up to there it reads the lines of the input one by
one, and each of them either at the prompt or as the answer to one question. -/
theorem run_consumes (s : Session τ μ Terminal) (input : Bytes) :
    let start := { s with approver := Terminal.ofBytes input }
    Typed input start.approver.unread ∧ (run start).1.getLast? = some farewell ∧
      ∃ readings, Consumes start readings (run start).2 := by
  intro start
  obtain ⟨hsaid, readings, hproceeds⟩ := exists_proceeds start
  refine ⟨Terminal.typed_ofBytes input, ?_, readings, hproceeds, hproceeds.lines,
    hproceeds.stops, ?_⟩
  · rw [run, List.getLast?_append, hsaid, Option.some_or]
  · obtain ⟨requests, hsends, hlimit⟩ := hproceeds.sends
    exact ⟨requests, hsends, hlimit.trans (Nat.mul_le_mul_right _ hproceeds.length_le)⟩

end Repl

end ToolAgent
