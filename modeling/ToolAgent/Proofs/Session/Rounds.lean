import ToolAgent.Proofs.Session.Batch
import ToolAgent.Session.Process

/-!
# The rounds of a turn

A turn is a loop: send the conversation, take the response, run the tools that it asks for, and
again. This module lays the loop out as the list of rounds that it goes through and the way in which
it ends, so that a statement about turns is an induction over rounds (`Rounds`) and a look at three
endings (`Ends`).

`exists_rounds` says that every turn is laid out so. It needs no assumption on the session: that
the assistant's answer is always taken follows from the request that was sent before it.
-/

namespace ToolAgent

variable {τ μ α π : Type}

/-- A round of tools within a turn. -/
structure Round (τ μ α : Type) where
  /-- The session that sends the request. -/
  opening : Session τ μ α
  /-- What the model answers; it asks for tools. -/
  response : Response
  /-- The session in which the batch begins: the response has joined the history. -/
  batch : Session τ μ α

namespace Session

/-! ## One pass of the loop -/

/-- The texts that are shown of the answer to a request. -/
def shownOf (streaming : Bool) : Except Error EventStream → List String
  | .ok stream => shown streaming (collect stream)
  | .error _ => []

section Converse

variable [ChatModel μ] {s : Session τ μ α}

/-- **What talking to the model does**, if there is anything to send: one request is sent, its
answer is drained, and what is shown of it is noted; nothing else changes but the model. -/
theorem converse_of_sendable {messages : List Message}
    (h : s.conversation.sendable = .ok messages) :
    s.converse =
      let request := s.request messages s.conversation.tools
      let answer := ChatModel.send s.model request
      (answer.1.bind fun stream => (collect stream).response, { s with
        model := answer.2
        acts := s.acts ++
          .sent request :: (shownOf s.config.streaming answer.1).map .said }) := by
  simp only [converse, h, send, note]
  cases (ChatModel.send s.model (s.request messages s.conversation.tools)).1 with
  | error e => rfl
  | ok stream =>
      simp only [Except.map, Except.bind, List.append_assoc, List.singleton_append]
      rfl

/-- A conversation that can be sent is sent: that is noted, together with the texts that are shown,
and nothing else changes but the model. -/
theorem converse_eq {messages : List Message} (h : s.conversation.sendable = .ok messages) :
    ∃ (result : Except Error Response) (model : μ) (texts : List String),
      s.converse = (result, { s with
        model
        acts := s.acts ++
          .sent (s.request messages s.conversation.tools) :: texts.map .said }) :=
  ⟨_, _, _, converse_of_sendable h⟩

/-- **What talking to the model comes to.** There is nothing to send, and nothing changes; or the
conversation is sent. -/
theorem converse_cases {result : Except Error Response} {after : Session τ μ α}
    (h : s.converse = (result, after)) :
    ((∃ e, result = .error e) ∧ after = s) ∨
      ∃ messages, s.conversation.sendable = .ok messages ∧
        ∃ (model : μ) (texts : List String), after = { s with
          model
          acts := s.acts ++
            .sent (s.request messages s.conversation.tools) :: texts.map .said } := by
  cases hsend : s.conversation.sendable with
  | ok messages =>
      obtain ⟨_, model, texts, heq⟩ := converse_eq hsend
      rw [heq] at h
      exact .inr ⟨messages, rfl, model, texts, (Prod.mk.inj h).2.symm⟩
  | error e =>
      simp only [converse, hsend] at h
      obtain ⟨rfl, rfl⟩ := Prod.mk.inj h
      exact .inl ⟨⟨e, rfl⟩, rfl⟩

/-- Only a pending message gets a response. -/
theorem sendable_of_converse {r : Response} {after : Session τ μ α}
    (h : s.converse = (.ok r, after)) : ∃ messages, s.conversation.sendable = .ok messages := by
  rcases converse_cases h with ⟨⟨_, herror⟩, -⟩ | ⟨messages, hsend, -⟩
  · cases herror
  · exact ⟨messages, hsend⟩

theorem conversation_of_converse {result : Except Error Response} {after : Session τ μ α}
    (h : s.converse = (result, after)) : after.conversation = s.conversation := by
  rcases converse_cases h with ⟨-, rfl⟩ | ⟨_, -, _, _, rfl⟩ <;> rfl

theorem config_of_converse {result : Except Error Response} {after : Session τ μ α}
    (h : s.converse = (result, after)) : after.config = s.config := by
  rcases converse_cases h with ⟨-, rfl⟩ | ⟨_, -, _, _, rfl⟩ <;> rfl

theorem workbench_of_converse {result : Except Error Response} {after : Session τ μ α}
    (h : s.converse = (result, after)) : after.workbench = s.workbench := by
  rcases converse_cases h with ⟨-, rfl⟩ | ⟨_, -, _, _, rfl⟩ <;> rfl

/-- Talking to the model adds to what was done only what concerns no tool. -/
theorem quiet_converse {result : Except Error Response} {after : Session τ μ α}
    (h : s.converse = (result, after)) : Notes (·.concernsTool = false) s after := by
  rcases converse_cases h with ⟨-, rfl⟩ | ⟨_, -, _, texts, rfl⟩
  · exact .of_acts_eq rfl
  · refine ⟨_, rfl, ?_⟩
    intro act hact
    rcases List.mem_cons.mp hact with rfl | hact
    · rfl
    · obtain ⟨text, -, rfl⟩ := List.mem_map.mp hact
      rfl

/-- The message that got a response is still there to be answered. -/
theorem answer_of_converse {r : Response} {after : Session τ μ α}
    (h : s.converse = (.ok r, after)) (message : AssistantMessage) :
    ∃ answered, after.answer message = .ok answered := by
  obtain ⟨messages, hsend⟩ := sendable_of_converse h
  unfold answer
  rw [conversation_of_converse h]
  cases hpending : s.conversation.pending with
  | none =>
      simp only [Conversation.sendable, hpending] at hsend
      cases hsend
  | some user =>
      rw [Conversation.answer, hpending]
      exact ⟨_, rfl⟩

end Converse

/-- An answer changes the conversation alone. -/
theorem answer_eq_ok {s after : Session τ μ α} {message : AssistantMessage}
    (h : s.answer message = .ok after) :
    ∃ conversation, s.conversation.answer message = .ok conversation ∧
      after = { s with conversation } := by
  unfold answer at h
  cases hanswer : s.conversation.answer message with
  | error e => rw [hanswer] at h; cases h
  | ok conversation =>
      rw [hanswer] at h
      exact ⟨conversation, rfl, (Except.ok.inj h).symm⟩

theorem workbench_of_answer {s after : Session τ μ α} {message : AssistantMessage}
    (h : s.answer message = .ok after) : after.workbench = s.workbench := by
  obtain ⟨_, -, rfl⟩ := answer_eq_ok h
  rfl

theorem notes_answer {s after : Session τ μ α} {message : AssistantMessage} {P : Act → Prop}
    (h : s.answer message = .ok after) : Notes P s after := by
  obtain ⟨_, -, rfl⟩ := answer_eq_ok h
  exact .of_acts_eq rfl

/-- At the limit the tool uses are answered with failures, and an answer closes the exchange. -/
theorem closeAtLimit_eq (uses : List ToolUse) (rounds : Nat) (s : Session τ μ α) :
    s.closeAtLimit uses rounds =
      ({ s with
        conversation := s.conversation.addResults
          (uses.map fun use => ToolResult.failure use.id (skippedText rounds)) }
        : Session τ μ α).answer (.response none (stoppedText rounds)) := rfl

theorem closeAtLimit_eq_ok (uses : List ToolUse) (rounds : Nat) (s : Session τ μ α) :
    ∃ after, s.closeAtLimit uses rounds = .ok after := ⟨_, rfl⟩

theorem notes_closeAtLimit {uses : List ToolUse} {rounds : Nat} {s after : Session τ μ α}
    {P : Act → Prop} (h : s.closeAtLimit uses rounds = .ok after) : Notes P s after := by
  obtain ⟨_, -, rfl⟩ := answer_eq_ok ((closeAtLimit_eq uses rounds s).symm.trans h)
  exact .of_acts_eq rfl

theorem workbench_of_closeAtLimit {uses : List ToolUse} {rounds : Nat} {s after : Session τ μ α}
    (h : s.closeAtLimit uses rounds = .ok after) : after.workbench = s.workbench := by
  obtain ⟨_, -, rfl⟩ := answer_eq_ok ((closeAtLimit_eq uses rounds s).symm.trans h)
  rfl

/-! ## The loop -/

variable [Workbench τ π] [ChatModel μ] [Approver α]

/-- A turn goes from one session to another through these rounds of tools. -/
inductive Rounds : Turn → Session τ μ α → List (Round τ μ α) → Turn → Session τ μ α → Prop
  | none {t s} : Rounds t s [] t s
  | round {t s r received batch rounds t' s'} :
      s.converse = (.ok r, received) → r.toolUses ≠ [] →
      received.answer (.toolRequest none r.text r.toolUses) = .ok batch → t.canRunTools = true →
      Rounds ((t.receive r).completeRound (batch.runBatch r.toolUses).1)
        (batch.runBatch r.toolUses).2 rounds t' s' →
      Rounds t s (⟨s, r, batch⟩ :: rounds) t' s'

/-- How a turn ends with its next request: what it comes to, and the session after it. -/
inductive Ends (t : Turn) (s : Session τ μ α) : Except Error Outcome → Session τ μ α → Prop
  /-- There is no response. -/
  | failed {e after} : s.converse = (.error e, after) → Ends t s (.error e) after
  /-- The response asks for no tools. -/
  | answered {r received after} : s.converse = (.ok r, received) → r.toolUses = [] →
      received.answer (.response none r.text) = .ok after →
      Ends t s (.ok ((t.receive r).outcome false)) after
  /-- The response asks for tools beyond the limit. -/
  | limited {r received asked after} : s.converse = (.ok r, received) → r.toolUses ≠ [] →
      received.answer (.toolRequest none r.text r.toolUses) = .ok asked → t.canRunTools = false →
      asked.closeAtLimit r.toolUses t.round = .ok after →
      Ends t s (.ok ((t.receive r).outcome true)) after

omit [ChatModel μ] in
theorem config_runBatch (s : Session τ μ α) (uses : List ToolUse) :
    (s.runBatch uses).2.config = s.config := by
  obtain ⟨dealt, hrun⟩ := runBatch_spec uses s
  cases hresult : s.runBatch uses with
  | mk ran after =>
      rw [hresult] at hrun
      cases hrun <;> rfl

/-- **Every turn is a list of rounds and an ending.** -/
theorem exists_rounds (t : Turn) (s : Session τ μ α) :
    ∃ rounds t' s', Rounds t s rounds t' s' ∧
      Ends t' s' (s.continueTurn t).1 (s.continueTurn t).2 := by
  fun_induction continueTurn t s with
  | case1 t s e after hconverse => exact ⟨[], t, s, .none, .failed hconverse⟩
  | case2 t s r after hconverse huses e hanswer =>
      obtain ⟨_, hok⟩ := answer_of_converse hconverse (.response none r.text)
      rw [hok] at hanswer
      cases hanswer
  | case3 t s r received hconverse huses after hanswer =>
      exact ⟨[], t, s, .none, .answered hconverse huses hanswer⟩
  | case4 t s r received hconverse huses e hanswer =>
      obtain ⟨_, hok⟩ := answer_of_converse hconverse (.toolRequest none r.text r.toolUses)
      rw [hok] at hanswer
      cases hanswer
  | case5 t s r received hconverse huses batch hanswer hcan ran after hbatch ih =>
      obtain ⟨rounds, t', s', hrounds, hends⟩ := ih
      refine ⟨⟨s, r, batch⟩ :: rounds, t', s', .round hconverse huses hanswer hcan ?_, hends⟩
      rw [hbatch]
      exact hrounds
  | case6 t s r received hconverse huses asked hanswer hcan e hclose =>
      obtain ⟨_, hok⟩ := closeAtLimit_eq_ok r.toolUses t.round asked
      rw [hok] at hclose
      cases hclose
  | case7 t s r received hconverse huses asked hanswer hcan after hclose =>
      exact ⟨[], t, s, .none, .limited hconverse huses hanswer (by simpa using hcan) hclose⟩

/-- **The rounds and the ending of a turn are the turn.** What comes after some rounds is what
the turn comes to. -/
theorem Rounds.continueTurn_eq {t t' : Turn} {s s' : Session τ μ α} {rounds : List (Round τ μ α)}
    (h : Rounds t s rounds t' s') : s.continueTurn t = s'.continueTurn t' := by
  induction h with
  | none => rfl
  | round hconverse huses hanswer hcan _ ih =>
      rw [continueTurn, hconverse]
      simp only [huses, if_false, hanswer, hcan, dif_pos]
      exact ih

theorem Ends.continueTurn_eq {t : Turn} {s s' : Session τ μ α} {result : Except Error Outcome}
    (h : Ends t s result s') : s.continueTurn t = (result, s') := by
  rw [continueTurn]
  cases h with
  | failed hconverse => rw [hconverse]
  | answered hconverse huses hanswer =>
      rw [hconverse]
      simp only [huses, if_true, hanswer]
  | limited hconverse huses hanswer hcan hclose =>
      rw [hconverse]
      simp only [huses, if_false, hanswer, hcan, Bool.false_eq_true, dite_false, hclose]

omit [Workbench τ π] [Approver α] in
/-- No tools run where a turn ends. -/
theorem Ends.workbench_eq {t : Turn} {s s' : Session τ μ α} {result : Except Error Outcome}
    (h : Ends t s result s') : s'.workbench = s.workbench := by
  cases h with
  | failed hconverse => exact workbench_of_converse hconverse
  | answered hconverse _ hanswer =>
      exact (workbench_of_answer hanswer).trans (workbench_of_converse hconverse)
  | limited hconverse _ hanswer _ hclose =>
      have hreceived := (workbench_of_answer hanswer).trans (workbench_of_converse hconverse)
      exact (workbench_of_closeAtLimit hclose).trans hreceived

/-- A turn does not change how it is configured. -/
theorem Rounds.config_eq {t t' : Turn} {s s' : Session τ μ α} {rounds : List (Round τ μ α)}
    (h : Rounds t s rounds t' s') : s'.config = s.config := by
  induction h with
  | none => rfl
  | @round t s r received batch rounds t' s' hconverse _ hanswer _ _ ih =>
      have hreceived := config_of_converse hconverse
      have hbatch : batch.config = received.config := by
        obtain ⟨_, -, rfl⟩ := answer_eq_ok hanswer
        rfl
      exact ih.trans ((config_runBatch batch r.toolUses).trans (hbatch.trans hreceived))

omit [Workbench τ π] [Approver α] in
theorem Ends.config_eq {t : Turn} {s s' : Session τ μ α} {result : Except Error Outcome}
    (h : Ends t s result s') : s'.config = s.config := by
  cases h with
  | failed hconverse => exact config_of_converse hconverse
  | answered hconverse _ hanswer =>
      have hreceived := config_of_converse hconverse
      obtain ⟨_, -, rfl⟩ := answer_eq_ok hanswer
      exact hreceived
  | limited hconverse _ hanswer _ hclose =>
      have hreceived := config_of_converse hconverse
      obtain ⟨_, -, rfl⟩ := answer_eq_ok hanswer
      obtain ⟨_, -, rfl⟩ := answer_eq_ok ((closeAtLimit_eq _ _ _).symm.trans hclose)
      exact hreceived

/-! ## Whole turns -/

/-- The session once the user has said something. -/
def say (s : Session τ μ α) (input : String) : Session τ μ α :=
  { s with conversation := s.conversation.say input }

/-- A turn before its first request, with the limit of rounds of the session. -/
def freshTurn (s : Session τ μ α) : Turn := .start s.config.tools.maxRounds.toNat

theorem process_eq (s : Session τ μ α) (input : String) :
    s.process input = (s.say input).continueTurn s.freshTurn := rfl

theorem config_process (s : Session τ μ α) (input : String) :
    (s.process input).2.config = s.config := by
  obtain ⟨_, _, _, hrounds, hends⟩ := exists_rounds s.freshTurn (s.say input)
  exact hends.config_eq.trans hrounds.config_eq

end Session

end ToolAgent
