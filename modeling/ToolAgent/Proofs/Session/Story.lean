import ToolAgent.Proofs.Session.Gate
import ToolAgent.Proofs.Session.Runs

/-!
# The story of a session

A session forgets: its history is pruned, and what was staged and never answered is replaced. To say
what became of something in the course of a run, this module tells the run as a *story*, a list of
happenings in their order.

* `Stage.Next` — which happening can come after which.
* `Conversation.retell` — the conversation that a story leads to when nothing is pruned; what a
  session still has of it is `Recent`.
* `Story` — a story that fits the sessions before and after it: what they hold, what was done, and
  what was sent.

`exists_story` says that each run of turns has a story. It is put together from the rounds and the
ending of each turn (`Rounds.story`, `Ends.story`).
-/

namespace ToolAgent

variable {τ μ α π : Type}

/-- What a tool use of a batch is answered with. A tool that could have run and did not was
declined. -/
def Dealt.answer (d : Dealt) : Answered :=
  match d.run with
  | some (tool, outcome) => .ofOutcome d.candidate.use tool outcome
  | none =>
    match d.candidate.tool with
    | .error r => ⟨none, r⟩
    | .ok _ => ⟨none, .failure d.candidate.use.id cancelledText⟩

theorem Running.answers_eq [Workbench τ π] {w w' : τ} {dealt : List Dealt}
    {answers : List Answered} (h : Running w dealt answers w') :
    answers = dealt.map Dealt.answer := by
  induction h with
  | done => rfl
  | failed htool _ ih => rw [List.map_cons, ← ih, Dealt.answer, htool]
  | ran _ _ ih =>
      rw [List.map_cons, ← ih]
      rfl

/-! ## Happenings -/

/-- Something that happens in a session. -/
inductive Happening
  /-- The user says something. -/
  | said (text : String)
  /-- The conversation is sent. -/
  | sent (request : ChatRequest)
  /-- The request gets no response. -/
  | failed (e : Error)
  /-- The assistant's answer joins the history. -/
  | answered (message : AssistantMessage)
  /-- A batch is declined. -/
  | declined (heard : List Heard)
  /-- The tools of a batch run. -/
  | ran (dealt : List Dealt)
  /-- Tool uses are beyond the limit. -/
  | skipped (uses : List ToolUse) (rounds : Nat)

/-- What is done to the world outside, apart from the texts that are shown. -/
def Happening.acts : Happening → List Act
  | .sent request => [.sent request]
  | .declined heard => heard.flatMap Heard.questions
  | .ran dealt => dealt.flatMap (·.toHeard.questions) ++ dealt.flatMap Dealt.invocations
  | _ => []

/-- How far a session is. -/
inductive Stage
  /-- Nothing is under way. -/
  | idle
  /-- A message of the user is staged. -/
  | staged
  /-- The conversation was sent. -/
  | waiting
  /-- The assistant asks for tools. -/
  | asked (uses : List ToolUse)
  /-- The turn is closed at the limit. -/
  | closing

namespace Stage

/-- What can happen at a stage, and the stage after it. -/
inductive Next : Stage → Happening → Stage → Prop
  | said {text} : Next idle (.said text) staged
  | sent {request} : Next staged (.sent request) waiting
  | failed {e} : Next waiting (.failed e) idle
  | answered {message} : message.toolUses = [] → Next waiting (.answered message) idle
  | asks {message} : message.toolUses ≠ [] →
      Next waiting (.answered message) (asked message.toolUses)
  | declined {heard} : Next (asked (heard.map (·.candidate.use))) (.declined heard) staged
  | ran {dealt} : Next (asked (dealt.map (·.candidate.use))) (.ran dealt) staged
  | skipped {uses rounds} : Next (asked uses) (.skipped uses rounds) closing
  | closed {message} : message.toolUses = [] → Next closing (.answered message) idle

/-- What can happen one after the other. -/
inductive Path : Stage → List Happening → Stage → Prop
  | nil {stage} : Path stage [] stage
  | cons {stage happening next rest last} : Next stage happening next → Path next rest last →
      Path stage (happening :: rest) last

theorem Path.append {stage next last : Stage} {story later : List Happening}
    (h : Path stage story next) (hlater : Path next later last) :
    Path stage (story ++ later) last := by
  induction h with
  | nil => exact hlater
  | cons hnext _ ih => exact .cons hnext (ih hlater)

theorem Path.split {stage last : Stage} {story later : List Happening}
    (h : Path stage (story ++ later) last) :
    ∃ next, Path stage story next ∧ Path next later last := by
  induction story generalizing stage with
  | nil => exact ⟨stage, .nil, h⟩
  | cons happening rest ih =>
      obtain _ | ⟨hnext, hrest⟩ := h
      obtain ⟨next, hpath, hlater⟩ := ih hrest
      exact ⟨next, .cons hnext hpath, hlater⟩

end Stage

/-! ## The whole conversation -/

namespace Conversation

/-- The conversation once the pending message has this answer, with nothing pruned. -/
def conclude (c : Conversation) (message : AssistantMessage) : Conversation :=
  match c.pending with
  | some user => { c with history := c.history ++ [⟨user, message⟩], pending := none }
  | none => c

theorem conclude_of_pending {c : Conversation} {user : UserMessage} (h : c.pending = some user)
    (message : AssistantMessage) : c.conclude message =
      { c with history := c.history ++ [⟨user, message⟩], pending := none } := by
  rw [conclude, h]

/-- The conversation after something has happened, with nothing pruned. -/
def happen (c : Conversation) : Happening → Conversation
  | .said text => c.say text
  | .sent _ => c
  | .failed _ => c
  | .answered message => c.conclude message
  | .declined heard => c.abandon (heard.map (·.candidate.use)) none
  | .ran dealt => c.addResults (dealt.map (·.answer.result))
  | .skipped uses rounds =>
    c.addResults (uses.map fun use => .failure use.id (skippedText rounds))

/-- The conversation after a story, with nothing pruned. -/
def retell (c : Conversation) (story : List Happening) : Conversation := story.foldl happen c

@[simp] theorem retell_cons (c : Conversation) (happening : Happening) (rest : List Happening) :
    c.retell (happening :: rest) = (c.happen happening).retell rest := rfl

@[simp] theorem retell_append (c : Conversation) (story later : List Happening) :
    c.retell (story ++ later) = (c.retell story).retell later := List.foldl_append

/-- Only an answer adds to the history, and nothing takes from it. -/
theorem history_happen (c : Conversation) (happening : Happening) :
    ∃ later, (c.happen happening).history = c.history ++ later := by
  cases happening with
  | answered message =>
      rw [happen, conclude]
      split
      · exact ⟨_, rfl⟩
      · exact ⟨[], (List.append_nil _).symm⟩
  | said text => exact ⟨[], (List.append_nil _).symm⟩
  | sent request => exact ⟨[], (List.append_nil _).symm⟩
  | failed e => exact ⟨[], (List.append_nil _).symm⟩
  | declined heard => exact ⟨[], (List.append_nil _).symm⟩
  | ran dealt => exact ⟨[], (List.append_nil _).symm⟩
  | skipped uses rounds => exact ⟨[], (List.append_nil _).symm⟩

theorem history_retell (c : Conversation) (story : List Happening) :
    ∃ later, (c.retell story).history = c.history ++ later := by
  induction story generalizing c with
  | nil => exact ⟨[], (List.append_nil _).symm⟩
  | cons happening rest ih =>
      obtain ⟨first, hfirst⟩ := c.history_happen happening
      obtain ⟨later, hlater⟩ := ih (c.happen happening)
      exact ⟨first ++ later, by rw [retell_cons, hlater, hfirst, List.append_assoc]⟩

end Conversation

/-- A conversation is the whole one but for its oldest exchanges. The last one is there. -/
structure Recent (whole c : Conversation) : Prop where
  rest : c = { whole with history := c.history }
  suffix : c.history <:+ whole.history
  last : c.history.getLast? = whole.history.getLast?

namespace Recent

variable {whole c : Conversation}

theorem refl (c : Conversation) : Recent c c := ⟨rfl, List.suffix_refl _, rfl⟩

theorem trans {c' : Conversation} (h : Recent whole c) (h' : Recent c c') : Recent whole c' := by
  refine ⟨?_, h'.suffix.trans h.suffix, h'.last.trans h.last⟩
  rw [h'.rest, h.rest]

theorem lastUses_eq (h : Recent whole c) : c.lastUses = whole.lastUses := by
  rw [Conversation.lastUses, Conversation.lastUses, h.last]

theorem pending_eq (h : Recent whole c) : c.pending = whole.pending := by rw [h.rest]

/-- What happens does not depend on what is forgotten. -/
theorem happen (h : Recent whole c) (happening : Happening) :
    Recent (whole.happen happening) (c.happen happening) := by
  cases happening with
  | said text =>
      refine ⟨?_, h.suffix, h.last⟩
      simp only [Conversation.happen, Conversation.say, h.lastUses_eq]
      rw [h.rest]
  | answered message =>
      rw [Conversation.happen, Conversation.happen, Conversation.conclude, Conversation.conclude,
        h.pending_eq]
      split
      · refine ⟨by rw [h.rest], ?_, by simp⟩
        obtain ⟨front, hfront⟩ := h.suffix
        exact ⟨front, by rw [← hfront, List.append_assoc]⟩
      · exact h
  | sent request => exact h
  | failed e => exact h
  | declined heard =>
      refine ⟨?_, h.suffix, h.last⟩
      simp only [Conversation.happen, Conversation.abandon]
      rw [h.rest]
  | ran dealt =>
      refine ⟨?_, h.suffix, h.last⟩
      simp only [Conversation.happen, Conversation.addResults]
      rw [h.rest]
  | skipped uses rounds =>
      refine ⟨?_, h.suffix, h.last⟩
      simp only [Conversation.happen, Conversation.addResults]
      rw [h.rest]

theorem retell (h : Recent whole c) (story : List Happening) :
    Recent (whole.retell story) (c.retell story) := by
  induction story generalizing whole c with
  | nil => exact h
  | cons happening rest ih => exact ih (h.happen happening)

/-- An answer prunes the history, but its own exchange stays. -/
theorem of_answer {c' : Conversation} {message : AssistantMessage}
    (h : c.answer message = .ok c') : Recent (c.happen (.answered message)) c' := by
  unfold Conversation.answer at h
  split at h
  · cases h
  · next user hpending =>
      obtain rfl := Except.ok.inj h
      rw [Conversation.happen, Conversation.conclude_of_pending hpending]
      exact ⟨rfl, (prune_spec _ _).1, getLast?_prune _ _⟩

end Recent

/-! ## Stories -/

namespace Act

/-- The text that an act shows, if it shows any. -/
def shown? : Act → Option String
  | .said text => some text
  | _ => none

/-- Whether an act is a text that is shown. -/
def isShown (act : Act) : Bool := act.shown?.isSome

theorem shown?_of_concernsTool {act : Act} (h : act.concernsTool = true) :
    act.shown? = none := by
  cases act with
  | said _ => cases h
  | sent _ => rfl
  | asked _ _ _ => rfl
  | invoked _ _ _ => rfl

theorem isShown_of_concernsTool {act : Act} (h : act.concernsTool = true) :
    act.isShown = false := by
  rw [isShown, shown?_of_concernsTool h]
  rfl

/-- Texts that are shown are all that is left out. -/
theorem filter_said (texts : List String) : (texts.map said).filter (!·.isShown) = [] := by
  simp [List.filter_eq_nil_iff, isShown, shown?]

end Act

/-- A story leaves out what is shown, and nothing else. -/
theorem Happening.filter_acts (happening : Happening) :
    happening.acts.filter (!·.isShown) = happening.acts := by
  apply List.filter_eq_self.mpr
  intro act hact
  rw [Bool.not_eq_true']
  cases happening with
  | sent request =>
      rw [List.mem_singleton.mp hact]
      rfl
  | declined heard =>
      obtain ⟨h, -, hact⟩ := List.mem_flatMap.mp hact
      exact Act.isShown_of_concernsTool (h.concernsTool hact)
  | ran dealt =>
      rcases List.mem_append.mp hact with hact | hact
      · obtain ⟨d, -, hact⟩ := List.mem_flatMap.mp hact
        exact Act.isShown_of_concernsTool (d.toHeard.concernsTool hact)
      · obtain ⟨d, -, hact⟩ := List.mem_flatMap.mp hact
        obtain ⟨_, _, -, rfl⟩ := d.eq_of_mem_invocations hact
        rfl
  | said text => cases hact
  | failed e => cases hact
  | answered message => cases hact
  | skipped uses rounds => cases hact

/-- A story that leads from one session to another. -/
structure Story (stage : Stage) (s : Session τ μ α) (story : List Happening) (stage' : Stage)
    (s' : Session τ μ α) : Prop where
  /-- Its happenings come in order. -/
  path : stage.Path story stage'
  /-- It tells what the session still holds of the conversation. -/
  recent : Recent (s.conversation.retell story) s'.conversation
  /-- It tells what was done. -/
  log : ∃ log, s'.acts = s.acts ++ log ∧
    log.filter (!·.isShown) = story.flatMap Happening.acts
  /-- What was sent is what the session held of the conversation then. -/
  requests : ∀ before request after, story = before ++ .sent request :: after →
    ∃ c, Recent (s.conversation.retell before) c ∧ c.sendable = .ok request.messages

namespace Story

variable {s s' s'' : Session τ μ α} {stage stage' stage'' : Stage}

theorem nil (stage : Stage) (s : Session τ μ α) : Story stage s [] stage s where
  path := .nil
  recent := .refl _
  log := ⟨[], (List.append_nil _).symm, rfl⟩
  requests := by simp

/-- A story of one happening. -/
theorem single {happening : Happening} (hnext : stage.Next happening stage')
    (hrecent : Recent (s.conversation.happen happening) s'.conversation)
    (hlog : ∃ texts : List String, s'.acts = s.acts ++ (happening.acts ++ texts.map .said))
    (hrequest : ∀ request, happening = .sent request →
      s.conversation.sendable = .ok request.messages) :
    Story stage s [happening] stage' s' where
  path := .cons hnext .nil
  recent := hrecent
  log := by
    obtain ⟨texts, hacts⟩ := hlog
    refine ⟨_, hacts, ?_⟩
    rw [List.filter_append, happening.filter_acts, Act.filter_said, List.flatMap_singleton,
      List.append_nil]
  requests := by
    intro before request after hsplit
    obtain ⟨rfl, hhead⟩ | ⟨_, -, hnil⟩ := List.cons_eq_append_iff.mp hsplit
    · obtain ⟨hsent, -⟩ := List.cons.inj hhead
      exact ⟨s.conversation, .refl _, hrequest request hsent.symm⟩
    · simp at hnil

/-- Stories go on. -/
theorem trans {story later : List Happening} (h : Story stage s story stage' s')
    (h' : Story stage' s' later stage'' s'') : Story stage s (story ++ later) stage'' s'' where
  path := h.path.append h'.path
  recent := by
    rw [Conversation.retell_append]
    exact (h.recent.retell later).trans h'.recent
  log := by
    obtain ⟨log, hacts, hlog⟩ := h.log
    obtain ⟨log', hacts', hlog'⟩ := h'.log
    refine ⟨log ++ log', by rw [hacts', hacts, List.append_assoc], ?_⟩
    rw [List.filter_append, hlog, hlog', List.flatMap_append]
  requests := by
    intro before request after hsplit
    rcases List.append_eq_append_iff.mp hsplit with ⟨more, rfl, hmore⟩ | ⟨more, rfl, hmore⟩
    · obtain ⟨c, hc, hsend⟩ := h'.requests more request after hmore
      refine ⟨c, ?_, hsend⟩
      rw [Conversation.retell_append]
      exact (h.recent.retell more).trans hc
    · cases more with
      | nil =>
          -- The first story ends just before the request.
          obtain ⟨c, hc, hsend⟩ := h'.requests [] request after hmore.symm
          rw [List.append_nil] at h
          exact ⟨c, h.recent.trans hc, hsend⟩
      | cons first more =>
          obtain ⟨rfl, rfl⟩ := List.cons.inj hmore
          exact h.requests before request more rfl

end Story

/-! ## The story of a turn -/

namespace Session

section Converse

variable [ChatModel μ] {s after : Session τ μ α}

omit [ChatModel μ] in
theorem sendable_of_pending {user : UserMessage} (h : s.conversation.pending = some user) :
    ∃ messages, s.conversation.sendable = .ok messages := by
  rw [Conversation.sendable, h]
  exact ⟨_, rfl⟩

/-- A conversation that can be sent is sent. -/
theorem story_converse {result : Except Error Response} {messages : List Message}
    (hsend : s.conversation.sendable = .ok messages) (h : s.converse = (result, after)) :
    Story .staged s [.sent (s.request messages s.conversation.tools)] .waiting after := by
  obtain ⟨_, model, texts, heq⟩ := converse_eq hsend
  rw [heq] at h
  obtain ⟨-, rfl⟩ := Prod.mk.inj h
  refine .single .sent (.refl _) ⟨texts, rfl⟩ ?_
  intro request hrequest
  obtain rfl := Happening.sent.inj hrequest
  exact hsend

/-- There is no response. -/
theorem story_failed {e : Error} {messages : List Message}
    (hsend : s.conversation.sendable = .ok messages) (h : s.converse = (.error e, after)) :
    Story .staged s [.sent (s.request messages s.conversation.tools), .failed e] .idle after :=
  (story_converse hsend h).trans
    (.single .failed (.refl _) ⟨[], (List.append_nil _).symm⟩ (by simp))

omit [ChatModel μ] in
theorem story_answer {message : AssistantMessage} {stage stage' : Stage}
    (hnext : stage.Next (.answered message) stage') (h : s.answer message = .ok after) :
    Story stage s [.answered message] stage' after := by
  obtain ⟨_, hanswer, rfl⟩ := answer_eq_ok h
  exact .single hnext (.of_answer hanswer) ⟨[], (List.append_nil _).symm⟩ (by simp)

/-- There is a response, and it joins the history. -/
theorem exists_story_answered {r : Response} {received : Session τ μ α} {stage : Stage}
    {message : AssistantMessage} (h : s.converse = (.ok r, received))
    (hanswer : received.answer message = .ok after)
    (hnext : Stage.Next .waiting (.answered message) stage) :
    ∃ story, Story .staged s story stage after := by
  obtain ⟨messages, hsend⟩ := sendable_of_converse h
  exact ⟨_, (story_converse hsend h).trans (story_answer hnext hanswer)⟩

end Converse

/-- A batch is declined, or its tools run. -/
theorem exists_story_runBatch [Workbench τ π] [Approver α] (s : Session τ μ α)
    (uses : List ToolUse) :
    ∃ happening user, Story (.asked uses) s [happening] .staged (s.runBatch uses).2 ∧
      (s.runBatch uses).2.conversation.pending = some user := by
  obtain ⟨dealt, hrun⟩ := runBatch_spec uses s
  cases hresult : s.runBatch uses with
  | mk ran after =>
      rw [hresult] at hrun
      cases hrun with
      | @denied heard approver hcandidates _ =>
          have huses : heard.map (·.candidate.use) = uses := by
            have := congrArg (List.map (·.use)) hcandidates
            simpa [Function.comp_def, Candidate.ofUse] using this
          subst huses
          exact ⟨.declined heard, _, .single .declined (.refl _)
            ⟨[], by rw [List.map_nil, List.append_nil]; rfl⟩ (by simp), rfl⟩
      | completed hcandidates _ hrunning =>
          obtain rfl := uses_of_candidates hcandidates
          obtain rfl := hrunning.answers_eq
          refine ⟨.ran dealt, _, .single .ran ?_
            ⟨[], by rw [List.map_nil, List.append_nil]; rfl⟩ (by simp), rfl⟩
          show Recent (s.conversation.addResults (dealt.map (·.answer.result)))
            (s.conversation.addResults ((dealt.map Dealt.answer).map (·.result)))
          rw [List.map_map]
          exact .refl _

/-- At the limit the tool uses are answered with failures, and the turn is closed. -/
theorem exists_story_closeAtLimit {s after : Session τ μ α} {uses : List ToolUse} {rounds : Nat}
    (h : s.closeAtLimit uses rounds = .ok after) :
    ∃ story, Story (.asked uses) s story .idle after := by
  rw [closeAtLimit_eq] at h
  have hskipped : Story (.asked uses) s [.skipped uses rounds] .closing { s with
      conversation := s.conversation.addResults
        (uses.map fun use => .failure use.id (skippedText rounds)) } :=
    .single .skipped (.refl _) ⟨[], (List.append_nil _).symm⟩ (by simp)
  exact ⟨_, hskipped.trans (story_answer (.closed rfl) h)⟩

variable [Workbench τ π] [ChatModel μ] [Approver α]

/-- The rounds of a turn have a story: request, answer, batch. -/
theorem Rounds.exists_story {t t' : Turn} {s s' : Session τ μ α} {rounds : List (Round τ μ α)}
    (h : Rounds t s rounds t' s') (hs : ∃ user, s.conversation.pending = some user) :
    ∃ story, Story .staged s story .staged s' ∧ ∃ user, s'.conversation.pending = some user := by
  -- Along the rounds a message is pending whenever the conversation is sent.
  induction h with
  | none => exact ⟨[], .nil _ _, hs⟩
  | @round t s r received batch rounds t' s' hconverse huses hanswer _ _ ih =>
      obtain ⟨first, hfirst⟩ := exists_story_answered hconverse hanswer (.asks huses)
      obtain ⟨happening, user, hbatch, hpending⟩ := exists_story_runBatch batch r.toolUses
      obtain ⟨later, hlater, hend⟩ := ih ⟨user, hpending⟩
      exact ⟨_, (hfirst.trans hbatch).trans hlater, hend⟩

omit [Workbench τ π] [Approver α] in
/-- The ending of a turn has a story. -/
theorem Ends.exists_story {t : Turn} {s s' : Session τ μ α} {result : Except Error Outcome}
    (h : Ends t s result s') (hs : ∃ user, s.conversation.pending = some user) :
    ∃ story, Story .staged s story .idle s' := by
  cases h with
  | failed hconverse =>
      obtain ⟨user, huser⟩ := hs
      obtain ⟨messages, hsend⟩ := sendable_of_pending huser
      exact ⟨_, story_failed hsend hconverse⟩
  | answered hconverse _ hanswer => exact exists_story_answered hconverse hanswer (.answered rfl)
  | limited hconverse huses hanswer _ hclose =>
      obtain ⟨first, hfirst⟩ := exists_story_answered hconverse hanswer (.asks huses)
      obtain ⟨later, hlater⟩ := exists_story_closeAtLimit hclose
      exact ⟨_, hfirst.trans hlater⟩

theorem exists_story_process (s : Session τ μ α) (input : String) :
    ∃ story, Story .idle s story .idle (s.process input).2 := by
  have hsaid : Story .idle s [.said input] .staged (s.say input) :=
    .single .said (.refl _) ⟨[], (List.append_nil _).symm⟩ (by simp)
  obtain ⟨rounds, t', s', hrounds, hends⟩ := exists_rounds s.freshTurn (s.say input)
  obtain ⟨story, hstory, hpending⟩ := hrounds.exists_story ⟨_, rfl⟩
  obtain ⟨last, hlast⟩ := hends.exists_story hpending
  exact ⟨_, (hsaid.trans hstory).trans hlast⟩

/-- The session after several turns, one for each input. -/
def processAll (s : Session τ μ α) (inputs : List String) : Session τ μ α :=
  s.run (inputs.map .process)

/-- **Every run of turns has a story.** -/
theorem exists_story (s : Session τ μ α) (inputs : List String) :
    ∃ story, Story .idle s story .idle (s.processAll inputs) := by
  induction inputs generalizing s with
  | nil => exact ⟨[], .nil _ _⟩
  | cons input rest ih =>
      obtain ⟨story, hstory⟩ := exists_story_process s input
      obtain ⟨later, hlater⟩ := ih (s.process input).2
      exact ⟨story ++ later, hstory.trans hlater⟩

end Session

end ToolAgent
