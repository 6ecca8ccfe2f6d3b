import ToolAgent.Proofs.Session.Requests
import ToolAgent.Repl.Terminal

/-!
# Answers from the terminal

A question that comes up in a turn takes the next line of the input as its answer, whoever would
have read that line otherwise.

* `Says` — what the next line says to a question: no, unless it clearly says otherwise.
* `Reads` — how the questions among some acts are answered from the lines of an input, and which
  lines are left. Each question takes one line, as long as there are lines; and after a no the next
  thing that is done is a request.
* `reads_process` — the questions of a turn are answered so.
-/

namespace ToolAgent

/-! ## Answers -/

/-- What the next line says to a question, if there is a next line. -/
inductive Says : Option InputLine → Approval → Prop
  | yes {line : String} : Text.Case.lower (Text.trim line) ∈ ["y", "yes"] →
      Says (some (some line)) .yes
  | trust {line : String} : Text.Case.lower (Text.trim line) ∈ ["t", "trust"] →
      Says (some (some line)) .trust
  | other {line : String} : Text.Case.lower (Text.trim line) ∉ ["y", "yes", "t", "trust"] →
      Says (some (some line)) .no
  /-- The line is no text. -/
  | unreadable : Says (some none) .no
  /-- The input has ended. -/
  | ended : Says none .no

theorem says_ofAnswer (line : String) : Says (some (some line)) (.ofAnswer line) := by
  unfold Approval.ofAnswer
  dsimp only
  split
  · next hyes => exact .yes (by simpa using hyes)
  · next hyes =>
      split
      · next htrust => exact .trust (by simpa using htrust)
      · next htrust => exact .other (by simp_all)

theorem Terminal.says_answer (t : Terminal) : Says t.unread.head? t.answer := by
  unfold answer
  split
  · next h => rw [h]; exact says_ofAnswer _
  · next h => rw [h]; exact .unreadable
  · next h => rw [h]; exact .ended

/-- Whether an act is a question. -/
def Act.isQuestion : Act → Bool
  | .asked _ _ _ => true
  | _ => false

/-- How the questions among acts are answered from the lines that were not read yet. The last
argument is the lines that are left. -/
inductive Reads : List InputLine → List Act → List InputLine → Prop
  | done {lines} : Reads lines [] lines
  /-- Only questions read lines. -/
  | other {lines act log rest} : act.isQuestion = false → Reads lines log rest →
      Reads lines (act :: log) rest
  | agreed {lines use description answer log rest} : Says lines.head? answer → answer ≠ .no →
      Reads (lines.drop 1) log rest → Reads lines (.asked use description answer :: log) rest
  /-- After a no, nothing is asked and nothing runs until the model has been told. -/
  | denied {lines use description request log rest} : Says lines.head? .no →
      Reads (lines.drop 1) (.sent request :: log) rest →
      Reads lines (.asked use description .no :: .sent request :: log) rest

namespace Reads

variable {lines rest : List InputLine} {log later : List Act}

/-- The lines that are left are the last ones. -/
theorem suffix (h : Reads lines log rest) : rest <:+ lines := by
  induction h with
  | done => exact List.suffix_refl _
  | other _ _ ih => exact ih
  | agreed _ _ _ ih => exact ih.trans (List.drop_suffix 1 _)
  | denied _ _ ih => exact ih.trans (List.drop_suffix 1 _)

theorem append_of_quiet (hquiet : ∀ act ∈ log, act.isQuestion = false)
    (h : Reads lines later rest) : Reads lines (log ++ later) rest := by
  induction log with
  | nil => exact h
  | cons act log ih =>
      obtain ⟨hact, hlog⟩ := List.forall_mem_cons.mp hquiet
      exact .other hact (ih hlog)

/-- A request and what is shown of its answer read nothing. -/
theorem sent (request : ChatRequest) (texts : List String) (h : Reads lines later rest) :
    Reads lines (.sent request :: (texts.map .said ++ later)) rest := by
  refine .other rfl (append_of_quiet ?_ h)
  intro act hact
  obtain ⟨text, -, rfl⟩ := List.mem_map.mp hact
  rfl

end Reads

namespace Session

variable {τ μ π : Type} [Workbench τ π]

/-! ## One batch -/

omit [Workbench τ π] in
/-- A question is answered by the next line, and is noted with its answer. -/
theorem says_ask {s after : Session τ μ Terminal} {use : ToolUse} {description : String}
    {answer : Approval} (h : s.ask use description = (answer, after)) :
    Says s.approver.unread.head? answer ∧
      after.approver.unread = s.approver.unread.drop 1 ∧
      after.acts = s.acts ++ [.asked use description answer] := by
  obtain ⟨rfl, rfl⟩ := Prod.mk.inj h
  exact ⟨s.approver.says_answer, rfl, rfl⟩

/-- **Asking takes the answers from the terminal.** Anything may be done later, but after a no that
begins with a request. -/
theorem exists_reads_askEach (trusted : List String) (cs : List Candidate)
    (s : Session τ μ Terminal) :
    ∃ log, (askEach trusted cs s).2.acts = s.acts ++ log ∧ ∀ later rest,
      ((askEach trusted cs s).1 = none → ∃ request more, later = .sent request :: more) →
      Reads (askEach trusted cs s).2.approver.unread later rest →
      Reads s.approver.unread (log ++ later) rest := by
  induction cs generalizing trusted s with
  | nil => exact ⟨[], (List.append_nil _).symm, fun _ _ _ hlater => hlater⟩
  | cons c rest ih =>
      unfold askEach
      split
      · exact ih trusted s
      · next tool _ =>
          split
          · exact ih trusted s
          · cases hask : s.ask c.use (Workbench.describe s.workbench tool) with
            | mk answer after =>
                obtain ⟨hline, hunread, hacts⟩ := says_ask hask
                cases answer with
                | yes =>
                    obtain ⟨log, hlog, hreads⟩ := ih trusted after
                    refine ⟨_ :: log, by rw [hlog, hacts, List.append_assoc]; rfl, ?_⟩
                    intro later rest hno hlater
                    exact .agreed hline nofun (hunread ▸ hreads later rest hno hlater)
                | trust =>
                    obtain ⟨log, hlog, hreads⟩ := ih (trusted ++ [tool.name]) after
                    refine ⟨_ :: log, by rw [hlog, hacts, List.append_assoc]; rfl, ?_⟩
                    intro later rest hno hlater
                    exact .agreed hline nofun (hunread ▸ hreads later rest hno hlater)
                | no =>
                    -- Nobody is asked about the rest, so what is done later follows at once.
                    refine ⟨_, hacts, fun later rest hno hlater => ?_⟩
                    obtain ⟨request, more, rfl⟩ := hno rfl
                    exact .denied hline (hunread ▸ hlater)

/-- The runs of tools are no questions. -/
theorem quiet_invokeEach {α : Type} (cs : List Candidate) (s : Session τ μ α) :
    Notes (·.isQuestion = false) s (invokeEach cs s).2 := by
  obtain ⟨dealt, workbench, -, -, hinvoked⟩ := invokeEach_spec (cs.map (⟨·, none⟩)) s
  have hcandidates : (cs.map fun c => (⟨c, none⟩ : Heard)).map (·.candidate) = cs := by
    simp [Function.comp_def]
  rw [hcandidates] at hinvoked
  refine ⟨dealt.flatMap Dealt.invocations, by rw [hinvoked], ?_⟩
  intro act hact
  obtain ⟨d, -, hact⟩ := List.mem_flatMap.mp hact
  obtain ⟨_, _, -, rfl⟩ := d.eq_of_mem_invocations hact
  rfl

/-- The questions of a batch are answered from the terminal, if a request comes after it. -/
theorem exists_reads_runBatch (uses : List ToolUse) (s : Session τ μ Terminal) :
    ∃ log, (s.runBatch uses).2.acts = s.acts ++ log ∧ ∀ request later rest,
      Reads (s.runBatch uses).2.approver.unread (.sent request :: later) rest →
      Reads s.approver.unread (log ++ .sent request :: later) rest := by
  obtain ⟨asked, hasked, hreads⟩ :=
    exists_reads_askEach [] (uses.map (Candidate.ofUse s.workbench)) s
  unfold runBatch
  dsimp only
  generalize askEach [] (uses.map (Candidate.ofUse s.workbench)) s = hearing at hasked hreads ⊢
  obtain ⟨ending, after⟩ := hearing
  cases ending with
  | none =>
      exact ⟨asked, hasked, fun request later rest => hreads _ rest fun _ => ⟨request, later, rfl⟩⟩
  | some trusted =>
      dsimp only at hasked hreads ⊢
      obtain ⟨ran, hran, hquiet⟩ := quiet_invokeEach (uses.map (Candidate.ofUse s.workbench))
        { after with permissions := trusted.foldl .trust after.permissions }
      have hunread := approver_invokeEach (uses.map (Candidate.ofUse s.workbench))
        { after with permissions := trusted.foldl .trust after.permissions }
      refine ⟨asked ++ ran, by rw [hran, hasked, List.append_assoc], ?_⟩
      intro request later rest hlater
      rw [hunread] at hlater
      rw [List.append_assoc]
      exact hreads _ rest nofun (.append_of_quiet hquiet hlater)

/-! ## Whole turns -/

variable [ChatModel μ]

omit [Workbench τ π] in
/-- A pending message is sent, and what is shown of the answer is noted. -/
theorem acts_converse {α : Type} {s after : Session τ μ α} {result : Except Error Response}
    (h : s.converse = (result, after)) (hs : ∃ user, s.conversation.pending = some user) :
    ∃ request texts, after.acts = s.acts ++ .sent request :: List.map .said texts := by
  obtain ⟨user, huser⟩ := hs
  obtain ⟨messages, hsend⟩ := sendable_of_pending huser
  obtain ⟨_, _, texts, heq⟩ := converse_eq hsend
  rw [heq] at h
  obtain ⟨-, rfl⟩ := Prod.mk.inj h
  exact ⟨_, texts, rfl⟩

omit [Workbench τ π] in
/-- The ending of a turn asks nothing. -/
theorem Ends.acts {t : Turn} {s s' : Session τ μ Terminal} {result : Except Error Outcome}
    (h : Ends t s result s') (hs : ∃ user, s.conversation.pending = some user) :
    s'.approver = s.approver ∧
      ∃ request texts, s'.acts = s.acts ++ .sent request :: List.map .said texts := by
  cases h with
  | failed hconverse => exact ⟨approver_of_converse hconverse, acts_converse hconverse hs⟩
  | answered hconverse _ hanswer =>
      have happrover := approver_of_converse hconverse
      have hacts := acts_converse hconverse hs
      obtain ⟨_, -, rfl⟩ := answer_eq_ok hanswer
      exact ⟨happrover, hacts⟩
  | limited hconverse _ hanswer _ hclose =>
      have happrover := approver_of_converse hconverse
      have hacts := acts_converse hconverse hs
      obtain ⟨_, -, rfl⟩ := answer_eq_ok hanswer
      obtain ⟨_, -, rfl⟩ := answer_eq_ok ((closeAtLimit_eq _ _ _).symm.trans hclose)
      exact ⟨happrover, hacts⟩

/-- **What is done from a round on begins with a request**, and its questions are answered from the
terminal. -/
theorem Rounds.reads {t t' : Turn} {s s' last : Session τ μ Terminal}
    {rounds : List (Round τ μ Terminal)} {result : Except Error Outcome}
    (h : Rounds t s rounds t' s') (hends : Ends t' s' result last)
    (hs : ∃ user, s.conversation.pending = some user) :
    ∃ request log, last.acts = s.acts ++ .sent request :: log ∧
      Reads s.approver.unread (.sent request :: log) last.approver.unread := by
  induction h with
  | none =>
      obtain ⟨happrover, request, texts, hacts⟩ := hends.acts hs
      refine ⟨request, texts.map .said, hacts, ?_⟩
      rw [happrover]
      exact List.append_nil (texts.map Act.said) ▸ Reads.done.sent request texts
  | @round t s r received batch rounds t' s' hconverse _ hanswer _ _ ih =>
      obtain ⟨request, texts, hsent⟩ := acts_converse hconverse hs
      obtain ⟨asked, hasked, hreads⟩ := exists_reads_runBatch r.toolUses batch
      obtain ⟨reply, hreply, -⟩ := exists_reply batch r.toolUses
      -- A batch stages a message, whatever its answers were, and so a request comes after it.
      obtain ⟨next, log, hlog, hlater⟩ := ih hends ⟨reply, by rw [hreply]⟩
      have hunread : batch.approver = s.approver :=
        (approver_answer hanswer).trans (approver_of_converse hconverse)
      obtain ⟨_, -, rfl⟩ := answer_eq_ok hanswer
      refine ⟨request, texts.map .said ++ (asked ++ .sent next :: log), ?_, ?_⟩
      · rw [hlog, hasked, hsent]
        simp
      · rw [← hunread]
        exact (hreads next log _ hlater).sent request texts

/-- **The questions of a turn are answered from the terminal.** -/
theorem reads_process (s : Session τ μ Terminal) (input : String) :
    ∃ log, (s.process input).2.acts = s.acts ++ log ∧
      Reads s.approver.unread log (s.process input).2.approver.unread := by
  obtain ⟨rounds, t', s', hrounds, hends⟩ := exists_rounds s.freshTurn (s.say input)
  obtain ⟨request, log, hacts, hreads⟩ := hrounds.reads hends ⟨_, rfl⟩
  exact ⟨.sent request :: log, hacts, hreads⟩

end Session

end ToolAgent
