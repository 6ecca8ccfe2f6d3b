import ToolAgent.Model.Script
import ToolAgent.Proofs.Session.Story

/-!
# What the model is told about tools that ran

The results of a batch are staged in one step and sent in another. `results_shown` says what later
requests show as the answer to the batch: its results if the first request behind it got a response,
and cancellations if it did not. For what the user says next declines all tool uses that have no
answer in the history, and does not look at what is staged; `cancelled_after_run` is such a run.
-/

namespace ToolAgent

variable {τ μ α π : Type}

namespace Conversation

/-- The messages of the user, the pending one last. -/
def userMessages (c : Conversation) : List UserMessage :=
  c.history.map (·.user) ++ c.pending.toList

/-- The message of the user in an exchange stays as it is. -/
theorem userMessages_retell {c : Conversation} {n : Nat} (h : n < c.history.length)
    (story : List Happening) : (c.retell story).userMessages[n]? = c.userMessages[n]? := by
  obtain ⟨later, hlater⟩ := c.history_retell story
  have hn : n < (c.history.map (·.user)).length := by rwa [List.length_map]
  rw [userMessages, userMessages, hlater, List.map_append, List.append_assoc,
    List.getElem?_append_left hn, List.getElem?_append_left hn]

/-- The pending message is behind all exchanges. -/
theorem userMessages_of_pending {c : Conversation} {user : UserMessage}
    (h : c.pending = some user) : c.userMessages[c.history.length]? = some user := by
  have hlength : (c.history.map (·.user)).length = c.history.length := List.length_map _
  rw [userMessages, h, List.getElem?_append_right (by omega), hlength, Nat.sub_self]
  rfl

/-- The results in what is sent are those that the messages of the user carry. -/
theorem toolResults_of_sendable {c : Conversation} {messages : List Message}
    (h : c.sendable = .ok messages) :
    messages.flatMap (·.toolResults) = c.userMessages.flatMap (·.toolResults) := by
  unfold sendable at h
  split at h
  · cases h
  · next user hpending =>
      obtain rfl := Except.ok.inj h
      have hsystem : (c.systemPrompt.map Message.system).toList.flatMap (·.toolResults) = [] := by
        cases c.systemPrompt <;> rfl
      have hsummary : ∀ lead reply,
          (c.summaryMessages lead reply).flatMap (·.toolResults) = [] := by
        intro lead reply
        unfold summaryMessages
        split <;> rfl
      have hhistory : c.historyMessages.flatMap (·.toolResults) =
          (c.history.map (·.user)).flatMap (·.toolResults) := by
        rw [historyMessages, List.flatMap_assoc, List.flatMap_map]
        congr
        funext e
        exact List.append_nil _
      rw [userMessages, hpending, List.flatMap_append, List.flatMap_append, List.flatMap_append,
        List.flatMap_append, hsystem, hsummary, hhistory]
      rfl

end Conversation

/-- What is still there of a conversation has its last messages of the user. -/
theorem Recent.userMessages_eq {whole c : Conversation} (h : Recent whole c) :
    c.userMessages = whole.userMessages.drop (whole.history.length - c.history.length) := by
  have hhistory := List.suffix_iff_eq_drop.mp h.suffix
  rw [Conversation.userMessages, Conversation.userMessages, h.pending_eq,
    List.drop_append_of_le_length (by rw [List.length_map]; omega), ← List.map_drop, ← hhistory]

/-! ## Stages and conversations -/

/-- What the conversation is like at a stage. -/
def Stage.Fits : Stage → Conversation → Prop
  | .idle, _ => True
  | .asked uses, c => uses ≠ [] ∧ c.lastUses = uses
  | _, c => ∃ user, c.pending = some user

theorem Stage.Next.fits {stage next : Stage} {happening : Happening} {c : Conversation}
    (h : stage.Next happening next) (hc : stage.Fits c) : next.Fits (c.happen happening) := by
  cases h with
  | asks huses =>
      obtain ⟨user, hpending⟩ := hc
      rw [Conversation.happen, Conversation.conclude_of_pending hpending]
      exact ⟨huses, by simp [Conversation.lastUses]⟩
  | said => exact ⟨_, rfl⟩
  | sent => exact hc
  | failed => trivial
  | answered _ => trivial
  | declined => exact ⟨_, rfl⟩
  | ran => exact ⟨_, rfl⟩
  | skipped => exact ⟨_, rfl⟩
  | closed _ => trivial

theorem Stage.Path.fits {stage last : Stage} {story : List Happening} {c : Conversation}
    (h : stage.Path story last) (hc : stage.Fits c) : last.Fits (c.retell story) := by
  induction h generalizing c with
  | nil => exact hc
  | cons hnext _ ih => exact ih (hnext.fits hc)

/-! ## What becomes of the results -/

/-- The request that was to bring the results of a batch gets no response. -/
def Interrupted (between : List Happening) : Prop :=
  ∃ request e later, between = .sent request :: .failed e :: later

/-- The tool uses that `c` ends with are declined by what the user says later on. -/
inductive Overruled (c : Conversation) : Stage → Conversation → Prop
  /-- The user has said so, but not got an answer yet. -/
  | staged {stage now} (text : String) : stage = .idle ∨ stage = .staged ∨ stage = .waiting →
      now.history = c.history →
      now.pending = some (.cancel (some text) (c.lastUses.map (·.id))) → Overruled c stage now
  /-- It is in the history. -/
  | settled {stage now} (text : String) : c.history.length < now.history.length →
      now.userMessages[c.history.length]? =
        some (.cancel (some text) (c.lastUses.map (·.id))) → Overruled c stage now

namespace Overruled

variable {c now : Conversation} {stage next : Stage}

theorem reply (h : Overruled c stage now) : ∃ text,
    now.userMessages[c.history.length]? =
      some (.cancel (some text) (c.lastUses.map (·.id))) := by
  cases h with
  | staged text _ hhistory hpending =>
      rw [← hhistory]
      exact ⟨text, Conversation.userMessages_of_pending hpending⟩
  | settled text _ hreply => exact ⟨text, hreply⟩

/-- Saying something declines the tool uses that the history ends with. -/
theorem of_say (huses : c.lastUses ≠ []) (hhistory : now.history = c.history) (text : String) :
    Overruled c .staged (now.say text) := by
  have hlast : now.lastUses = c.lastUses := by
    rw [Conversation.lastUses, hhistory, Conversation.lastUses]
  refine .staged text (.inr (.inl rfl)) hhistory ?_
  rw [Conversation.say, hlast, if_neg huses]

/-- Nothing that happens takes the cancellation back. -/
theorem step (huses : c.lastUses ≠ []) {happening : Happening}
    (hnext : stage.Next happening next) (h : Overruled c stage now) :
    Overruled c next (now.happen happening) := by
  cases h with
  | settled text hlt hreply =>
      obtain ⟨later, hlater⟩ := now.history_happen happening
      refine .settled text (by rw [hlater, List.length_append]; omega) ?_
      rw [← hreply]
      exact Conversation.userMessages_retell hlt [happening]
  | staged text hstage hhistory hpending =>
      -- An answer puts the cancellation into the history; no batch can come before that.
      have hanswered : ∀ (message : AssistantMessage) (last : Stage),
          Overruled c last (now.happen (.answered message)) := by
        intro message last
        rw [Conversation.happen, Conversation.conclude_of_pending hpending]
        refine .settled text ?_ ?_
        · rw [hhistory, List.length_append, List.length_singleton]
          omega
        · simp [Conversation.userMessages, hhistory]
      cases hnext with
      | said => exact of_say huses hhistory _
      | sent => exact .staged text (.inr (.inr rfl)) hhistory hpending
      | failed => exact .staged text (.inl rfl) hhistory hpending
      | answered _ => exact hanswered _ _
      | asks _ => exact hanswered _ _
      | closed _ => exact hanswered _ _
      | declined => simp at hstage
      | ran => simp at hstage
      | skipped => simp at hstage

theorem run (huses : c.lastUses ≠ []) {story : List Happening} {last : Stage}
    (hpath : stage.Path story last) (h : Overruled c stage now) :
    Overruled c last (now.retell story) := by
  induction hpath generalizing now with
  | nil => exact h
  | cons hnext _ ih => exact ih (h.step huses hnext)

end Overruled

theorem Heard.invoked_notMem (h : Heard) (use : ToolUse) (tool : Tool)
    (outcome : Except Error Output) : Act.invoked use tool outcome ∉ h.questions := by
  unfold questions
  split
  · simp
  · exact List.not_mem_nil

/-- What is invoked in a story runs in a batch. -/
theorem Story.exists_ran_of_invoked {stage stage' : Stage} {s s' : Session τ μ α}
    {story : List Happening} (h : Story stage s story stage' s') {use : ToolUse} {tool : Tool}
    {outcome : Except Error Output}
    (hinvoked : Act.invoked use tool outcome ∈ s'.acts.drop s.acts.length) :
    ∃ dealt d, .ran dealt ∈ story ∧ d ∈ dealt ∧ d.candidate.use = use ∧
      d.answer = .ofOutcome use tool outcome := by
  obtain ⟨log, hacts, hlog⟩ := h.log
  rw [hacts, List.drop_left] at hinvoked
  have hmem : Act.invoked use tool outcome ∈ story.flatMap Happening.acts := by
    rw [← hlog]
    exact List.mem_filter.mpr ⟨hinvoked, rfl⟩
  obtain ⟨happening, hhappening, hact⟩ := List.mem_flatMap.mp hmem
  -- Only what happens in a batch that ran invokes tools.
  cases happening with
  | ran dealt =>
      rcases List.mem_append.mp hact with hact | hact
      · obtain ⟨d, -, hact⟩ := List.mem_flatMap.mp hact
        exact absurd hact (d.toHeard.invoked_notMem use tool outcome)
      · obtain ⟨d, hd, hact⟩ := List.mem_flatMap.mp hact
        obtain ⟨_, _, hrun, heq⟩ := d.eq_of_mem_invocations hact
        obtain ⟨rfl, rfl, rfl⟩ := Act.invoked.inj heq
        exact ⟨dealt, d, hhappening, hd, rfl, by rw [Dealt.answer, hrun]⟩
  | declined heard =>
      obtain ⟨h, -, hact⟩ := List.mem_flatMap.mp hact
      exact absurd hact (h.invoked_notMem use tool outcome)
  | sent request => cases List.mem_singleton.mp hact
  | said text => cases hact
  | failed e => cases hact
  | answered message => cases hact
  | skipped uses rounds => cases hact

section Batch

variable {c : Conversation} {dealt : List Dealt} {between after : List Happening}
  {request : ChatRequest} {last : Stage}

/-- The results of a batch stay the answer to it unless their request is interrupted. -/
theorem reply_of_not_interrupted (hbetween : ¬ Interrupted between)
    (hpath : Stage.Path .staged (between ++ .sent request :: after) last) :
    ((c.happen (.ran dealt)).retell between).userMessages[c.history.length]? =
      some (.results (dealt.map (·.answer.result))) := by
  -- With an answer the results are in the history, where they stay.
  have hanswered : ∀ (message : AssistantMessage) (later : List Happening),
      (((c.happen (.ran dealt)).happen (.answered message)).retell
        later).userMessages[c.history.length]? =
        some (.results (dealt.map (·.answer.result))) := by
    intro message later
    have hconclude : (c.happen (.ran dealt)).happen (.answered message) = { c with
        history := c.history ++ [⟨.results (dealt.map (·.answer.result)), message⟩]
        pending := none } := rfl
    rw [hconclude, Conversation.userMessages_retell (by simp)]
    simp [Conversation.userMessages]
  cases between with
  | nil =>
      -- The request is the one that brings the results.
      exact (c.happen (.ran dealt)).userMessages_of_pending rfl
  | cons first rest =>
      obtain _ | ⟨hfirst, hrest⟩ := hpath
      cases hfirst with
      | sent =>
          cases rest with
          | nil =>
              obtain _ | ⟨hsecond, -⟩ := hrest
              cases hsecond
          | cons second later =>
              obtain _ | ⟨hsecond, -⟩ := hrest
              cases hsecond with
              | failed => exact absurd ⟨_, _, _, rfl⟩ hbetween
              | answered _ => exact hanswered _ _
              | asks _ => exact hanswered _ _

/-- A request that is interrupted is followed by what the user says. -/
theorem overruled_of_interrupted (huses : c.lastUses ≠ []) (hbetween : Interrupted between)
    (hpath : Stage.Path .staged (between ++ .sent request :: after) last) :
    ∃ stage, Overruled c stage ((c.happen (.ran dealt)).retell between) := by
  obtain ⟨first, e, later, rfl⟩ := hbetween
  obtain ⟨stage, hpath, hrequest⟩ := hpath.split
  obtain _ | ⟨-, hpath⟩ := hpath
  obtain _ | ⟨hfailed, hpath⟩ := hpath
  cases hfailed with
  | failed =>
      refine ⟨stage, ?_⟩
      cases later with
      | nil =>
          -- Nothing is sent while nothing is under way.
          obtain _ | ⟨hsent, -⟩ := hrequest
          cases hsent with
          | sent => cases hpath
      | cons said rest =>
          obtain _ | ⟨hsaid, hrest⟩ := hpath
          cases hsaid with
          | @said text =>
              have hsay : Overruled c .staged ((c.happen (.ran dealt)).say text) :=
                .of_say huses rfl text
              show Overruled c stage (((c.happen (.ran dealt)).say text).retell rest)
              exact hsay.run huses hrest

end Batch

namespace Session

variable [Workbench τ π] [ChatModel μ] [Approver α]

/-- **What later requests show of a batch.** A run of turns has a story, in which each tool that was
invoked ran in a batch. Each request after a batch shows an end of the whole conversation, and there
the answer to the batch is: its results, that is what the invocations gave, unless the request that
was to bring them got no response; then it is cancellations. -/
theorem results_shown (s : Session τ μ α) (inputs : List String) :
    ∃ story, Story .idle s story .idle (s.processAll inputs) ∧
      (∀ use tool outcome,
        .invoked use tool outcome ∈ (s.processAll inputs).acts.drop s.acts.length →
        ∃ dealt d, .ran dealt ∈ story ∧ d ∈ dealt ∧ d.candidate.use = use ∧
          d.answer = .ofOutcome use tool outcome) ∧
      ∀ before dealt between request after,
        story = before ++ .ran dealt :: (between ++ .sent request :: after) →
        let asking := s.conversation.retell before
        let whole := s.conversation.retell (before ++ .ran dealt :: between)
        asking.lastUses = dealt.map (·.candidate.use) ∧
        (∃ c, Recent whole c ∧ c.sendable = .ok request.messages ∧
          request.messages.flatMap (·.toolResults) = (whole.userMessages.drop
            (whole.history.length - c.history.length)).flatMap (·.toolResults)) ∧
        (¬ Interrupted between → whole.userMessages[asking.history.length]? =
          some (.results (dealt.map (·.answer.result)))) ∧
        (Interrupted between → ∃ text, whole.userMessages[asking.history.length]? =
          some (.cancel (some text) (dealt.map (·.candidate.use.id)))) := by
  obtain ⟨story, hstory⟩ := s.exists_story inputs
  refine ⟨story, hstory, ?_, ?_⟩
  · intro use tool outcome hinvoked
    exact hstory.exists_ran_of_invoked hinvoked
  · intro before dealt between request after hsplit asking whole
    -- What comes after the batch begins at the stage at which its results are pending.
    obtain ⟨stage, hbefore, hpath⟩ := (hsplit ▸ hstory.path).split
    obtain _ | ⟨hran, hafter⟩ := hpath
    cases hran with
    | ran =>
        obtain ⟨hne, huses⟩ : dealt.map (·.candidate.use) ≠ [] ∧
            asking.lastUses = dealt.map (·.candidate.use) := hbefore.fits trivial
        have hwhole : whole = (asking.happen (.ran dealt)).retell between := by
          simp only [whole, Conversation.retell_append, Conversation.retell_cons]
          rfl
        refine ⟨huses, ?_, ?_, ?_⟩
        · obtain ⟨c, hrecent, hsend⟩ := hstory.requests (before ++ .ran dealt :: between) request
            after (by rw [hsplit, List.append_assoc, List.cons_append])
          refine ⟨c, hrecent, hsend, ?_⟩
          rw [Conversation.toolResults_of_sendable hsend, hrecent.userMessages_eq]
        · intro hbetween
          rw [hwhole]
          exact reply_of_not_interrupted hbetween hafter
        · intro hbetween
          obtain ⟨_, hoverruled⟩ :=
            overruled_of_interrupted (huses ▸ hne) hbetween hafter
          obtain ⟨text, hreply⟩ := hoverruled.reply
          refine ⟨text, ?_⟩
          rw [hwhole, hreply, huses, List.map_map]
          rfl

/-- The results that each request shows. -/
def resultsSent (s : Session τ μ α) : List (List ToolResult) :=
  (s.acts.filterMap Act.request?).map fun request => request.messages.flatMap (·.toolResults)

end Session

/-! ### A run with a request that fails -/

/-- A workbench where each tool does what it is asked for. -/
structure Obliging where

instance : Workbench Obliging ScriptedServer where
  manager _ := ⟨⟨[], by simp⟩, .empty⟩
  validate _ _ := .ok ()
  describe _ _ := "writing"
  invoke w _ := (.ok (.text "written"), w)

/-- A call that writes a file. -/
def writeFile : ToolUse :=
  ⟨"1", "fs_write", .object [("command", .string "create"), ("path", .string "f")]⟩

namespace Session

/-- A session with a model that asks for a file to be written, fails, and then answers. -/
def atDesk : Session Obliging ModelScript Unanimous :=
  start .standard "1" ⟨⟩ [.toolUses "" [writeFile], .streamError "" "reset", .text "ok"] ⟨.yes⟩

/-- The file was written, but after the failure the model is told that it was not. -/
theorem cancelled_after_run : (atDesk.processAll ["write it", "go on"]).resultsSent =
    [[], [⟨"1", [.text "written"], .success⟩], [.failure "1" cancelledText]] := by
  decide +kernel

end Session

end ToolAgent
