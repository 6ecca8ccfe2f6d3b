import ToolAgent.Proofs.Session.Requests

/-!
# The turn in progress

The history is kept short while a turn is under way, but never by what belongs to the turn. Its
first message may open a block of its own or belong to an older one; all later messages carry
results, so no cut can come between them (`suffix_prune`).

* `Conversation.Underway` — the exchanges of the turn so far are at the end of the history. Each
  round keeps it (`Underway.answer`).
* `Exchanged` — which exchanges these are after some rounds, read off the rounds.
* `turn_unpruned` — each request of a turn ends with all of them and the pending message.
-/

namespace ToolAgent

variable {τ μ α π : Type}

namespace Conversation

/-- From `base` on these exchanges were made and `last` was staged; the exchanges are still there,
and all messages of the user after the first carry results. -/
structure Underway (base : Conversation) (exchanges : List Exchange) (last : UserMessage)
    (c : Conversation) : Prop where
  rest : c = { base with history := c.history, pending := some last }
  suffix : exchanges <:+ c.history
  results : ∀ u ∈ (exchanges.map (·.user) ++ [last]).tail, u.hasResults = true

/-- A turn begins with what the user says; something stands for it if it is blank. -/
theorem underway_say (c : Conversation) (text : String) :
    ∃ first, (c.say text).pending = some first ∧
      (first.said? = some text ∨
        Text.isBlankText text = true ∧ first.said? = some emptyPrompt) ∧
      (c.say text).Underway [] first (c.say text) := by
  refine ⟨_, rfl, ?_, rfl, List.nil_suffix, by simp⟩
  split
  · cases hblank : Text.isBlankText text with
    | true => exact .inr ⟨rfl, by rw [UserMessage.ofPrompt, if_pos hblank]; rfl⟩
    | false => exact .inl (by rw [UserMessage.ofPrompt, hblank]; rfl)
  · exact .inl rfl

namespace Underway

variable {base c : Conversation} {exchanges : List Exchange} {last reply : UserMessage}

/-- **An exchange of the turn more**: with the answer to the last message and with the results for
that answer. -/
theorem answer (h : Underway base exchanges last c) {message : AssistantMessage}
    {answered : Conversation} (hanswer : c.answer message = .ok answered)
    (hreply : reply.hasResults = true) :
    Underway base (exchanges ++ [⟨last, message⟩]) reply
      { answered with pending := some reply } := by
  have hpending : c.pending = some last := by rw [h.rest]
  rw [Conversation.answer, hpending] at hanswer
  obtain rfl := Except.ok.inj hanswer
  refine ⟨by rw [h.rest], ?_, ?_⟩
  · obtain ⟨front, hfront⟩ := h.suffix
    have hall : exchanges ++ [⟨last, message⟩] <:+ c.history ++ [⟨last, message⟩] :=
      ⟨front, by rw [← hfront, List.append_assoc]⟩
    show _ <:+ prune c.bound _
    -- Pruning stops before the turn, since all its messages but the first bring results.
    cases exchanges with
    | nil => exact suffix_prune hall (by simp)
    | cons e later =>
        refine suffix_prune hall ?_
        intro x hx
        refine h.results x.user ?_
        rcases List.mem_append.mp hx with hx | hx
        · exact List.mem_append_left _ (List.mem_map_of_mem hx)
        · exact List.mem_append_right _ (List.mem_singleton.mp hx ▸ List.mem_singleton_self _)
  · intro u hu
    cases exchanges with
    | nil => exact List.mem_singleton.mp hu ▸ hreply
    | cons e later =>
        rw [List.map_append] at hu
        rcases List.mem_append.mp hu with hu | hu
        · exact h.results u hu
        · exact List.mem_singleton.mp hu ▸ hreply

/-- What is sent ends with the exchanges of the turn and the pending message. -/
theorem sendable (h : Underway base exchanges last c) : ∃ front, c.sendable = .ok
    (front ++ exchanges.flatMap Exchange.messages ++
      [last.toMessage (if last.said?.isSome then base.renderContext else none)]) := by
  obtain ⟨front, hfront⟩ := h.suffix
  have hpending : c.pending = some last := by rw [h.rest]
  have hcontext : c.renderContext = base.renderContext := by rw [h.rest]; rfl
  have hmessages : c.historyMessages =
      front.flatMap Exchange.messages ++ exchanges.flatMap Exchange.messages := by
    rw [historyMessages, ← hfront, List.flatMap_append]
  rw [Conversation.sendable, hpending, hmessages, hcontext]
  dsimp only
  rw [← List.append_assoc]
  exact ⟨_, rfl⟩

end Underway

end Conversation

/-! ## Exchanges of a turn -/

/-- The message of the assistant that a round begins with. -/
def Round.asking (round : Round τ μ α) : AssistantMessage :=
  .toolRequest none round.response.text round.response.toolUses

section Exchanged

variable [Workbench τ π] [Approver α]

/-- The exchanges that are complete after some rounds of a turn, and the message staged then.
The turn begins with a message of the user. Each round answers the staged message, and its batch
stages the next one, with results or cancellations for exactly the tool uses of the answer. -/
inductive Exchanged : UserMessage → List (Round τ μ α) → List Exchange → UserMessage → Prop
  | none {user} : Exchanged user [] [] user
  | round {user round rounds reply exchanges last} :
      (Session.runBatch round.response.toolUses round.batch).2.conversation.pending = some reply →
      reply.answered = round.response.toolUses.map (·.id) →
      Exchanged reply rounds exchanges last →
      Exchanged user (round :: rounds) (⟨user, round.asking⟩ :: exchanges) last

end Exchanged

namespace Session

variable [Workbench τ π] [ChatModel μ] [Approver α]

/-- **What the rounds of a turn keep**: the session that opens a round, or the ending, still has all
exchanges of the rounds before it. -/
theorem Rounds.underway {base : Conversation} {t t' : Turn} {s s' : Session τ μ α}
    {rounds : List (Round τ μ α)} (h : Rounds t s rounds t' s') {exchanges : List Exchange}
    {user : UserMessage} (hs : base.Underway exchanges user s.conversation) {i : Nat}
    {opening : Session τ μ α} (hi : (rounds.map (·.opening) ++ [s'])[i]? = some opening) :
    ∃ later last, Exchanged user (rounds.take i) later last ∧
      base.Underway (exchanges ++ later) last opening.conversation := by
  induction h generalizing exchanges user i with
  | none =>
      obtain ⟨rfl, rfl⟩ : i = 0 ∧ _ = opening := by simpa [List.getElem?_singleton] using hi
      exact ⟨[], user, .none, by rwa [List.append_nil]⟩
  | @round t s r received batch rounds t' s' hconverse huses hanswer _ _ ih =>
      cases i with
      | zero =>
          obtain rfl : s = opening := by simpa using hi
          exact ⟨[], user, .none, by rwa [List.append_nil]⟩
      | succ i =>
          obtain ⟨_, hok, rfl⟩ := answer_eq_ok hanswer
          rw [conversation_of_converse hconverse] at hok
          obtain ⟨reply, hreply, hids⟩ :=
            exists_reply { received with conversation := _ } r.toolUses
          -- A batch is not empty, so the message that it stages carries results.
          have hresults : reply.hasResults = true := by
            by_contra hnone
            have hnil := UserMessage.answered_eq_nil.mpr
              (UserMessage.toolResults_of_not_hasResults hnone)
            exact huses (List.map_eq_nil_iff.mp (hids.symm.trans hnil))
          have hnext := hs.answer hok hresults
          obtain ⟨later, last, hexchanged, hopening⟩ := ih (hreply ▸ hnext) hi
          refine ⟨_ :: later, last, .round (by rw [hreply]) hids hexchanged, ?_⟩
          rw [List.append_assoc] at hopening
          exact hopening

/-- **The turn in progress is never pruned.** A turn makes one request at the opening of each of its
rounds and one at its ending. Whatever the bound of the history is, each request ends with the whole
turn so far: the message that carries what the user said, as it was staged; for each response
already received, that response and the message with the results or cancellations for its tool
uses; the last of these messages is the pending one. -/
theorem turn_unpruned (s : Session τ μ α) (input : String) :
    ∃ rounds t' s', Rounds s.freshTurn (s.say input) rounds t' s' ∧
      Ends t' s' (s.process input).1 (s.process input).2 ∧
      (s.turnRequests input).map some = (rounds.map (·.opening) ++ [s']).map request? ∧
      ∃ first, (s.say input).conversation.pending = some first ∧
        (first.said? = some input ∨
          Text.isBlankText input = true ∧ first.said? = some emptyPrompt) ∧
        ∀ i request, (s.turnRequests input)[i]? = some request →
          ∃ front exchanges last, Exchanged first (rounds.take i) exchanges last ∧
            request.messages = front ++ exchanges.flatMap Exchange.messages ++
              [last.toMessage (if last.said?.isSome then s.conversation.renderContext
                else none)] := by
  obtain ⟨rounds, t', s', hrounds, hends⟩ := exists_rounds s.freshTurn (s.say input)
  obtain ⟨first, hfirst, hsaid, hstart⟩ := s.conversation.underway_say input
  have hrequests := turnRequests_eq hrounds hends
  refine ⟨rounds, t', s', hrounds, hends, hrequests, first, hfirst, hsaid, ?_⟩
  intro i request hi
  have hsome : ((rounds.map (·.opening) ++ [s']).map request?)[i]? = some (some request) := by
    rw [← hrequests, List.getElem?_map, hi]
    rfl
  rw [List.getElem?_map] at hsome
  -- The request is that of the session at the opening of a round, or at the ending.
  obtain ⟨opening, hopening, hrequest⟩ := Option.map_eq_some_iff.mp hsome
  obtain ⟨exchanges, last, hexchanged, hunderway⟩ := hrounds.underway hstart hopening
  obtain ⟨front, hsend⟩ := hunderway.sendable
  rw [request?_of_sendable hsend] at hrequest
  obtain rfl := Option.some.inj hrequest
  exact ⟨front, exchanges, last, hexchanged, rfl⟩

end Session

end ToolAgent
