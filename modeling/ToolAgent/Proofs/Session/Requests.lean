import ToolAgent.Proofs.Session.Story

/-!
# The requests of a turn

A turn sends one request for each of its rounds and one more. `turnRequests_eq` says so and names
the session that sends each of them, so that a statement about what is sent is one about sessions.
-/

namespace ToolAgent

variable {τ μ α π : Type}

namespace Session

/-- The request for an answer to the conversation as it stands, if there is anything to answer. -/
def request? (s : Session τ μ α) : Option ChatRequest :=
  match s.conversation.sendable with
  | .ok messages => some (s.request messages s.conversation.tools)
  | .error _ => none

theorem request?_of_sendable {s : Session τ μ α} {messages : List Message}
    (h : s.conversation.sendable = .ok messages) :
    s.request? = some (s.request messages s.conversation.tools) := by
  rw [request?, h]

/-- From one session to another, acts are only added to what was done, and these are the requests
among them. -/
def Sends (s s' : Session τ μ α) (requests : List ChatRequest) : Prop :=
  ∃ log, s'.acts = s.acts ++ log ∧ log.filterMap Act.request? = requests

namespace Sends

variable {s s' s'' : Session τ μ α} {requests later : List ChatRequest}

theorem of_acts_eq (h : s'.acts = s.acts) : Sends s s' [] :=
  ⟨[], by rw [h, List.append_nil], rfl⟩

theorem trans (h : Sends s s' requests) (h' : Sends s' s'' later) :
    Sends s s'' (requests ++ later) := by
  obtain ⟨log, hacts, rfl⟩ := h
  obtain ⟨log', hacts', rfl⟩ := h'
  exact ⟨log ++ log', by rw [hacts', hacts, List.append_assoc], List.filterMap_append⟩

theorem of_notes (h : Notes (·.request? = none) s s') : Sends s s' [] := by
  obtain ⟨log, hacts, hlog⟩ := h
  exact ⟨log, hacts, List.filterMap_eq_nil_iff.mpr hlog⟩

/-- The requests are those among the acts that were added. -/
theorem requests_eq (h : Sends s s' requests) :
    (s'.acts.drop s.acts.length).filterMap Act.request? = requests := by
  obtain ⟨log, hacts, hlog⟩ := h
  rw [hacts, List.drop_left, hlog]

end Sends

theorem request?_of_concernsTool {act : Act} (h : act.concernsTool = true) :
    act.request? = none := by
  cases act with
  | sent _ => cases h
  | said _ => cases h
  | asked _ _ _ => rfl
  | invoked _ _ _ => rfl

section Converse

variable [ChatModel μ] {s after : Session τ μ α}

/-- Talking to the model is one request. -/
theorem sends_converse {user : UserMessage} (hpending : s.conversation.pending = some user)
    {result : Except Error Response} (h : s.converse = (result, after)) :
    ∃ request, s.request? = some request ∧ Sends s after [request] := by
  obtain ⟨messages, hsend⟩ := sendable_of_pending hpending
  obtain ⟨_, _, texts, heq⟩ := converse_eq hsend
  rw [heq] at h
  obtain ⟨-, rfl⟩ := Prod.mk.inj h
  have hsaid : (texts.map Act.said).filterMap Act.request? = [] := by
    simp [List.filterMap_eq_nil_iff, Act.request?]
  exact ⟨_, request?_of_sendable hsend, _, rfl,
    congrArg (s.request messages s.conversation.tools :: ·) hsaid⟩

end Converse

/-- A batch stages a message that answers its tool uses, and leaves the rest of the conversation as
it is. -/
theorem exists_reply [Workbench τ π] [Approver α] (s : Session τ μ α) (uses : List ToolUse) :
    ∃ reply : UserMessage,
      (s.runBatch uses).2.conversation = { s.conversation with pending := some reply } ∧
      reply.answered = uses.map (·.id) := by
  obtain ⟨dealt, hrun⟩ := runBatch_spec uses s
  cases hresult : s.runBatch uses with
  | mk ran after =>
      rw [hresult] at hrun
      cases hrun with
      | denied _ _ =>
          refine ⟨_, rfl, ?_⟩
          simp [UserMessage.cancel, UserMessage.answered, UserMessage.toolResults,
            ToolResult.failure, Function.comp_def]
      | completed hcandidates _ hrunning =>
          exact ⟨_, rfl, useIds_of_completed hrunning hcandidates⟩

variable [Workbench τ π] [ChatModel μ] [Approver α]

/-- **Each round sends one request**, and leaves a message to send. -/
theorem Rounds.sends {t t' : Turn} {s s' : Session τ μ α} {rounds : List (Round τ μ α)}
    (h : Rounds t s rounds t' s') (hs : ∃ user, s.conversation.pending = some user) :
    (∃ user, s'.conversation.pending = some user) ∧
      ∃ requests, Sends s s' requests ∧
        requests.map some = rounds.map (·.opening.request?) := by
  induction h with
  | none => exact ⟨hs, [], .of_acts_eq rfl, rfl⟩
  | @round t s r received batch rounds t' s' hconverse _ hanswer _ _ ih =>
      obtain ⟨user, huser⟩ := hs
      obtain ⟨request, hrequest, hsent⟩ := sends_converse huser hconverse
      obtain ⟨reply, hreply, -⟩ := exists_reply batch r.toolUses
      obtain ⟨hstaged, later, hlater, hmap⟩ := ih ⟨reply, by rw [hreply]⟩
      have hbatch : Sends batch (batch.runBatch r.toolUses).2 [] :=
        .of_notes ((notes_runBatch batch r.toolUses).imp fun _ => request?_of_concernsTool)
      have hround := (hsent.trans (.of_notes (notes_answer hanswer))).trans (hbatch.trans hlater)
      refine ⟨hstaged, _, hround, ?_⟩
      rw [List.map_append, List.nil_append, hmap, List.map_cons, hrequest]
      rfl

omit [Workbench τ π] [Approver α] in
/-- The ending of a turn sends one request more. -/
theorem Ends.sends {t : Turn} {s s' : Session τ μ α} {result : Except Error Outcome}
    (h : Ends t s result s') (hs : ∃ user, s.conversation.pending = some user) :
    ∃ request, s.request? = some request ∧ Sends s s' [request] := by
  obtain ⟨user, huser⟩ := hs
  cases h with
  | failed hconverse => exact sends_converse huser hconverse
  | answered hconverse _ hanswer =>
      obtain ⟨request, hrequest, hsent⟩ := sends_converse huser hconverse
      exact ⟨request, hrequest, hsent.trans (.of_notes (notes_answer hanswer))⟩
  | limited hconverse _ hanswer _ hclose =>
      obtain ⟨request, hrequest, hsent⟩ := sends_converse huser hconverse
      exact ⟨request, hrequest,
        hsent.trans (.of_notes ((notes_answer hanswer).trans (notes_closeAtLimit hclose)))⟩

/-- **The requests of a turn** are those of the sessions that open its rounds, and the one that its
ending makes. -/
theorem turnRequests_eq {s s' : Session τ μ α} {input : String} {rounds : List (Round τ μ α)}
    {t' : Turn} (hrounds : Rounds s.freshTurn (s.say input) rounds t' s')
    (hends : Ends t' s' (s.process input).1 (s.process input).2) :
    (s.turnRequests input).map some = (rounds.map (·.opening) ++ [s']).map request? := by
  obtain ⟨hstaged, requests, hsent, hmap⟩ := hrounds.sends ⟨_, rfl⟩
  obtain ⟨last, hlast, hsentLast⟩ := hends.sends hstaged
  have hall : s.turnRequests input = requests ++ [last] := (hsent.trans hsentLast).requests_eq
  rw [hall, List.map_append, List.map_append, hmap, List.map_map, List.map_singleton,
    List.map_singleton, hlast]
  rfl

theorem length_turnRequests {s s' : Session τ μ α} {input : String} {rounds : List (Round τ μ α)}
    {t' : Turn} (hrounds : Rounds s.freshTurn (s.say input) rounds t' s')
    (hends : Ends t' s' (s.process input).1 (s.process input).2) :
    (s.turnRequests input).length = rounds.length + 1 := by
  have hlength := congrArg List.length (turnRequests_eq hrounds hends)
  simpa using hlength

end Session

end ToolAgent
