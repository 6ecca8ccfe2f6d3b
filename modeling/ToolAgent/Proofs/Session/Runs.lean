import ToolAgent.Proofs.Conversation.Pairing
import ToolAgent.Proofs.Session.Rounds
import ToolAgent.Session.Compaction

/-!
# Runs of a session

A run is any sequence of turns, compactions and clearings. The main statement, `run_paired`, says
that calls and results pair up in all that a run leaves in the history and in all that a turn sends
after it — whatever the model, the approver and the tools do, and wherever a turn breaks off.

The invariant between two calls is `Paired` history alone: a turn that breaks off may leave its
message pending, but the next turn stages a new one, and what that has to answer is read off the
history. Within a turn the invariant is `Conversation.Ready`.
-/

namespace ToolAgent

variable {τ μ α π : Type}

/-- What is asked of a session. -/
inductive Call
  | process (input : String)
  | compact
  | clear

/-- The request that an act is, if it is one. -/
def Act.request? : Act → Option ChatRequest
  | .sent request => some request
  | _ => none

/-- An act that is a request is a request for an answer to a dialogue. -/
def Act.SendsDialogue (act : Act) : Prop := ∀ request ∈ act.request?, ChatDialogue request.messages

theorem Act.SendsDialogue.of_concernsTool {act : Act} (h : act.concernsTool = true) :
    act.SendsDialogue := by
  intro request hrequest
  cases act with
  | sent _ => cases h
  | said _ => cases h
  | asked _ _ _ => cases hrequest
  | invoked _ _ _ => cases hrequest

namespace Session

/-! ## What a batch stages -/

section Batch

variable [Workbench τ π]

/-- The answers of a batch are for its tool uses, in their order. -/
theorem useIds_of_running {w w' : τ} {dealt : List Dealt} {answers : List Answered}
    (h : Running w dealt answers w')
    (hfailed : ∀ d ∈ dealt, ∀ r, d.candidate.tool = .error r → r.useId = d.candidate.use.id) :
    answers.map (·.result.useId) = dealt.map (·.candidate.use.id) := by
  induction h with
  | done => rfl
  | failed htool _ ih =>
      rw [List.map_cons, List.map_cons, ih fun d hd => hfailed d (List.mem_cons_of_mem _ hd)]
      rw [hfailed _ List.mem_cons_self _ htool]
  | @ran w w' h tool rest answers htool _ ih =>
      rw [List.map_cons, List.map_cons, ih fun d hd => hfailed d (List.mem_cons_of_mem _ hd)]
      cases (Workbench.invoke w tool).1 <;> rfl

theorem useIds_of_completed {w w' : τ} {uses : List ToolUse} {dealt : List Dealt}
    {answers : List Answered} (h : Running w dealt answers w')
    (hdealt : dealt.map (·.candidate) = uses.map (Candidate.ofUse w)) :
    (answers.map (·.result)).map (·.useId) = uses.map (·.id) := by
  have hids : dealt.map (·.candidate.use.id) = uses.map (·.id) := by
    have := congrArg (List.map (·.use.id)) hdealt
    simpa [Function.comp_def, Candidate.ofUse] using this
  rw [List.map_map, ← hids]
  refine useIds_of_running h ?_
  intro d hd r hr
  have hmem : d.candidate ∈ uses.map (Candidate.ofUse w) := hdealt ▸ List.mem_map_of_mem hd
  obtain ⟨use, -, hcandidate⟩ := List.mem_map.mp hmem
  rw [← hcandidate] at hr ⊢
  exact Candidate.useId_of_ofUse hr

/-- **A batch leaves its tool uses answered**, with results or with cancellations. -/
theorem ready_runBatch [Approver α] {s : Session τ μ α} {uses : List ToolUse}
    (h : Paired s.conversation.history)
    (hids : uses.map (·.id) = awaited s.conversation.history) :
    (s.runBatch uses).2.conversation.Ready := by
  obtain ⟨dealt, hrun⟩ := runBatch_spec uses s
  cases hresult : s.runBatch uses with
  | mk ran after =>
      rw [hresult] at hrun
      cases hrun with
      | denied _ _ => exact Conversation.ready_abandon h hids none
      | completed hdealt _ hrunning =>
          exact Conversation.ready_addResults h ((useIds_of_completed hrunning hdealt).trans hids)

end Batch

/-! ## What a turn sends -/

variable [ChatModel μ]

/-- A ready conversation is sent as a dialogue, and nothing else is sent with it. -/
theorem notes_converse {s after : Session τ μ α} {result : Except Error Response}
    (h : s.conversation.Ready) (hconverse : s.converse = (result, after)) :
    Notes Act.SendsDialogue s after := by
  obtain ⟨messages, hsend, hdialogue⟩ := h.sendable
  obtain ⟨_, _, texts, heq⟩ := converse_eq hsend
  rw [heq] at hconverse
  obtain ⟨-, rfl⟩ := Prod.mk.inj hconverse
  refine ⟨_, rfl, ?_⟩
  intro act hact request hrequest
  rcases List.mem_cons.mp hact with rfl | hact
  · obtain rfl := Option.some.inj hrequest
    exact hdialogue
  · obtain ⟨text, -, rfl⟩ := List.mem_map.mp hact
    cases hrequest

/-- What a response leaves when it has joined the history: calls that wait for results. -/
theorem paired_of_answer {s received after : Session τ μ α} {r : Response}
    {message : AssistantMessage} (h : s.conversation.Ready)
    (hconverse : s.converse = (.ok r, received)) (hanswer : received.answer message = .ok after) :
    Paired after.conversation.history ∧ awaited after.conversation.history = message.asked := by
  obtain ⟨_, hok, rfl⟩ := answer_eq_ok hanswer
  rw [conversation_of_converse hconverse] at hok
  obtain ⟨_, hready, hpaired, hawaited⟩ := h.answer message
  rw [hready] at hok
  obtain rfl := Except.ok.inj hok
  exact ⟨hpaired, hawaited⟩

omit [ChatModel μ] in
/-- At the limit the calls that wait are answered, and the exchange is closed. -/
theorem paired_closeAtLimit {s after : Session τ μ α} {uses : List ToolUse} {rounds : Nat}
    (h : Paired s.conversation.history) (hids : awaited s.conversation.history = uses.map (·.id))
    (hclose : s.closeAtLimit uses rounds = .ok after) : Paired after.conversation.history := by
  rw [closeAtLimit_eq] at hclose
  have hskipped : (s.conversation.addResults
      (uses.map fun use => ToolResult.failure use.id (skippedText rounds))).Ready := by
    refine Conversation.ready_addResults h ?_
    rw [hids, List.map_map]
    rfl
  obtain ⟨_, hok, rfl⟩ := answer_eq_ok hclose
  obtain ⟨_, hready, hclosed, -⟩ := hskipped.answer (.response none (stoppedText rounds))
  rw [hready] at hok
  obtain rfl := Except.ok.inj hok
  exact hclosed

variable [Workbench τ π] [Approver α]

/-- **What the rounds of a turn keep**: from a ready conversation to a ready conversation, through
paired histories only, sending dialogues only. -/
theorem Rounds.ready {t t' : Turn} {s s' : Session τ μ α} {rounds : List (Round τ μ α)}
    (h : Rounds t s rounds t' s') (hs : s.conversation.Ready) :
    s'.conversation.Ready ∧ Notes Act.SendsDialogue s s' ∧
      ∀ round ∈ rounds, round.opening.conversation.Ready ∧
        Paired round.batch.conversation.history := by
  induction h with
  | none => exact ⟨hs, .of_acts_eq rfl, by simp⟩
  | @round t s r received batch rounds t' s' hconverse _ hanswer _ _ ih =>
      obtain ⟨hpaired, hawaited⟩ := paired_of_answer hs hconverse hanswer
      obtain ⟨hready, hnotes, hrounds⟩ := ih (ready_runBatch hpaired hawaited.symm)
      refine ⟨hready, ?_, ?_⟩
      · have hbatch := (notes_runBatch batch r.toolUses).imp
          fun _ => Act.SendsDialogue.of_concernsTool
        have hround := (notes_converse hs hconverse).trans (notes_answer hanswer)
        exact hround.trans (hbatch.trans hnotes)
      · intro round hround
        rcases List.mem_cons.mp hround with rfl | hround
        · exact ⟨hs, hpaired⟩
        · exact hrounds round hround

omit [Approver α] in
/-- **What the ending of a turn leaves**: a paired history, however it ends. -/
theorem Ends.paired {t : Turn} {s s' : Session τ μ α} {result : Except Error Outcome}
    (h : Ends t s result s') (hs : s.conversation.Ready) :
    Paired s'.conversation.history ∧ Notes Act.SendsDialogue s s' := by
  cases h with
  | failed hconverse =>
      refine ⟨?_, notes_converse hs hconverse⟩
      rw [conversation_of_converse hconverse]
      exact hs.paired
  | answered hconverse _ hanswer =>
      exact ⟨(paired_of_answer hs hconverse hanswer).1,
        (notes_converse hs hconverse).trans (notes_answer hanswer)⟩
  | limited hconverse _ hanswer _ hclose =>
      obtain ⟨hpaired, hawaited⟩ := paired_of_answer hs hconverse hanswer
      exact ⟨paired_closeAtLimit hpaired hawaited hclose, (notes_converse hs hconverse).trans
        ((notes_answer hanswer).trans (notes_closeAtLimit hclose))⟩

/-! ## Runs -/

/-- The session after a call. -/
def perform (s : Session τ μ α) : Call → Session τ μ α
  | .process input => (s.process input).2
  | .compact => s.compact.2
  | .clear => s.clear

/-- The session after several calls. -/
def run (s : Session τ μ α) (calls : List Call) : Session τ μ α := calls.foldl perform s

/-- The requests that a turn sends. -/
def turnRequests (s : Session τ μ α) (input : String) : List ChatRequest :=
  ((s.process input).2.acts.drop s.acts.length).filterMap Act.request?

theorem paired_process {s : Session τ μ α} (h : Paired s.conversation.history) (input : String) :
    Paired (s.process input).2.conversation.history ∧
      Notes Act.SendsDialogue s (s.process input).2 := by
  have hready : (s.say input).conversation.Ready := Conversation.ready_say h input
  obtain ⟨rounds, t', s', hrounds, hends⟩ := exists_rounds s.freshTurn (s.say input)
  obtain ⟨hs', hnotes, -⟩ := hrounds.ready hready
  obtain ⟨hpaired, hlast⟩ := hends.paired hs'
  exact ⟨hpaired, hnotes.trans hlast⟩

/-- Each request of a turn is a dialogue. -/
theorem dialogue_of_mem_turnRequests {s : Session τ μ α} (h : Paired s.conversation.history)
    {input : String} {request : ChatRequest} (hrequest : request ∈ s.turnRequests input) :
    ChatDialogue request.messages := by
  obtain ⟨act, hact, hsent⟩ := List.mem_filterMap.mp hrequest
  exact (paired_process h input).2.of_mem_drop hact request hsent

omit [Approver α] in
theorem paired_compact {s : Session τ μ α} (h : Paired s.conversation.history) :
    Paired s.compact.2.conversation.history := by
  unfold compact
  split
  · exact h
  · dsimp only
    split
    · exact h
    · split
      · exact h
      · exact Conversation.paired_compact _ _

/-- **One call keeps the history paired.** -/
theorem paired_perform {s : Session τ μ α} (h : Paired s.conversation.history) (call : Call) :
    Paired (s.perform call).conversation.history := by
  cases call with
  | process input => exact (paired_process h input).1
  | compact => exact paired_compact h
  | clear => exact Conversation.paired_clear _ true

theorem paired_run {s : Session τ μ α} (h : Paired s.conversation.history) (calls : List Call) :
    Paired (s.run calls).conversation.history := by
  induction calls generalizing s with
  | nil => exact h
  | cons call rest ih => exact ih (paired_perform h call)

omit [ChatModel μ] [Approver α] in
/-- A new session has no history. -/
theorem history_start (config : Config) (conversationId : String) (workbench : τ) (model : μ)
    (approver : α) :
    (start config conversationId workbench model approver).conversation.history = [] := by
  unfold start
  dsimp only
  split <;> rfl

omit [ChatModel μ] [Approver α] in
theorem paired_start (config : Config) (conversationId : String) (workbench : τ) (model : μ)
    (approver : α) :
    Paired (start config conversationId workbench model approver).conversation.history := by
  rw [history_start]
  exact .nil

/-- **Calls and results pair up throughout.** After any run, the history is paired; a turn that
starts there goes through paired histories only; and every request that it sends is a dialogue, in
which each message of the user carries results for exactly the tool uses before it. -/
theorem run_paired (config : Config) (conversationId : String) (workbench : τ) (model : μ)
    (approver : α) (calls : List Call) :
    let s := (start config conversationId workbench model approver).run calls
    Paired s.conversation.history ∧
      ∀ input : String,
        (∀ request ∈ s.turnRequests input, ChatDialogue request.messages) ∧
        ∀ rounds t' s', Rounds s.freshTurn (s.say input) rounds t' s' →
          s'.conversation.Ready ∧ ∀ round ∈ rounds, round.opening.conversation.Ready ∧
            Paired round.batch.conversation.history := by
  intro s
  have hs : Paired s.conversation.history := paired_run (paired_start ..) calls
  refine ⟨hs, fun input => ⟨?_, ?_⟩⟩
  · intro request hrequest
    obtain ⟨act, hact, hsent⟩ := List.mem_filterMap.mp hrequest
    exact (paired_process hs input).2.of_mem_drop hact request hsent
  · intro rounds t' s' hrounds
    obtain ⟨hready, -, hvisited⟩ := hrounds.ready (Conversation.ready_say hs input)
    exact ⟨hready, hvisited⟩

end Session

end ToolAgent
