import ToolAgent.Proofs.Model.Collecting
import ToolAgent.Proofs.Session.Replies
import ToolAgent.Proofs.Session.Requests

/-!
# Requests that get no response

A request may be refused, or its stream may break off after some text and some tool uses. What had
arrived then counts for nothing: the turn ends with the error, and the session is as it was when the
request was sent, apart from the model and from what was shown.

* `NoResponse` — how an answer of the model fails, and what had arrived before.
* `converse_of_noResponse` — what talking to the model leaves then; `exists_noResponse` — there is
  no other way for it to fail.
* `process_broken_off` — the same of whole turns. That the request which fails ends the turn is
  `Rounds.continueTurn_eq`: the turn goes on from the rounds before the request as it goes on from
  its beginning.
-/

namespace ToolAgent

variable {τ μ α π : Type}

/-- An answer of the model fails with `e` after these events. -/
inductive NoResponse : Except Error EventStream → List Event → Error → Prop
  /-- There is no stream. -/
  | refused {e} : NoResponse (.error e) [] e
  /-- The stream breaks off. -/
  | broken {stream events e} : stream.Breaks events e → NoResponse (.ok stream) events e

theorem NoResponse.drained {answer : Except Error EventStream} {events : List Event} {e : Error}
    (h : NoResponse answer events e) :
    (answer.bind fun stream => (collect stream).response) = .error e := by
  cases h with
  | refused => rfl
  | broken hbreaks => exact collect_eq_error_iff.mpr ⟨events, hbreaks⟩

theorem exists_of_drained {answer : Except Error EventStream} {e : Error}
    (h : (answer.bind fun stream => (collect stream).response) = .error e) :
    ∃ events, NoResponse answer events e := by
  cases answer with
  | error failure =>
      obtain rfl := Except.error.inj h
      exact ⟨[], .refused⟩
  | ok stream =>
      obtain ⟨events, hbreaks⟩ := collect_eq_error_iff.mp h
      exact ⟨events, .broken hbreaks⟩

/-- An answer fails, or it is a complete stream. -/
theorem exists_noResponse_or_completes (answer : Except Error EventStream) :
    (∃ events e, NoResponse answer events e) ∨
      ∃ stream events, answer = .ok stream ∧ stream.Completes events := by
  cases answer with
  | error e => exact .inl ⟨[], e, .refused⟩
  | ok stream =>
      cases hresponse : (collect stream).response with
      | error e =>
          obtain ⟨events, hbreaks⟩ := collect_eq_error_iff.mp hresponse
          exact .inl ⟨events, e, .broken hbreaks⟩
      | ok r =>
          obtain ⟨events, hcompletes, -⟩ := collect_eq_ok hresponse
          exact .inr ⟨stream, events, rfl, hcompletes⟩

namespace Session

/-- A stream that breaks off is shown as far as it came, but only while it arrives. -/
theorem shownOf_of_noResponse {answer : Except Error EventStream} {events : List Event} {e : Error}
    (h : NoResponse answer events e) (streaming : Bool) :
    shownOf streaming answer =
      if streaming then events.filterMap Event.fragment? else [] := by
  cases h with
  | refused => cases streaming <;> rfl
  | broken hbreaks =>
      have hcollect := collectFrom_of_breaks hbreaks .empty
      rw [shownOf, collect, hcollect, shown]

theorem request?_eq_some {s : Session τ μ α} {request : ChatRequest}
    (h : s.request? = some request) :
    ∃ messages, s.conversation.sendable = .ok messages ∧
      request = s.request messages s.conversation.tools := by
  unfold request? at h
  split at h
  · next messages hsend => exact ⟨messages, hsend, (Option.some.inj h).symm⟩
  · cases h

/-- What is sent ends with the pending message. -/
theorem exists_pending_of_request? {s : Session τ μ α} {request : ChatRequest}
    (h : s.request? = some request) :
    ∃ user front context, s.conversation.pending = some user ∧
      request.messages = front ++ [user.toMessage context] := by
  obtain ⟨messages, hsend, rfl⟩ := request?_eq_some h
  unfold Conversation.sendable at hsend
  split at hsend
  · cases hsend
  · next user hpending =>
      obtain rfl := Except.ok.inj hsend
      exact ⟨user, _, _, hpending, rfl⟩

section Converse

variable [ChatModel μ] {s : Session τ μ α} {request : ChatRequest} {events : List Event} {e : Error}

/-- **What a request without a response leaves**: the session as it was, but for the model and what
was shown. -/
theorem converse_of_noResponse (hrequest : s.request? = some request)
    (h : NoResponse (ChatModel.send s.model request).1 events e) :
    s.converse = (.error e, { s with
      model := (ChatModel.send s.model request).2
      acts := s.acts ++ .sent request ::
        (if s.config.streaming then events.filterMap Event.fragment? else []).map .said }) := by
  obtain ⟨messages, hsend, rfl⟩ := request?_eq_some hrequest
  have hshown := shownOf_of_noResponse h s.config.streaming
  rw [converse_of_sendable hsend]
  dsimp only
  rw [h.drained, hshown]

/-- Talking to the model fails only if a request gets no response. -/
theorem exists_noResponse {after : Session τ μ α} {user : UserMessage}
    (hpending : s.conversation.pending = some user) (h : s.converse = (.error e, after)) :
    ∃ request events, s.request? = some request ∧
      NoResponse (ChatModel.send s.model request).1 events e := by
  obtain ⟨messages, hsend⟩ := sendable_of_pending hpending
  rw [converse_of_sendable hsend] at h
  obtain ⟨hdrained, -⟩ := Prod.mk.inj h
  obtain ⟨events, hfails⟩ := exists_of_drained hdrained
  exact ⟨_, events, request?_of_sendable hsend, hfails⟩

end Converse

variable [Workbench τ π] [ChatModel μ] [Approver α]

/-- **A half-received response has no effect.** Whenever a request of a turn gets no response, after
whatever text and tool uses, the turn ends with that error, and it leaves the session as it was when
the request was sent: the conversation with its history and with the message that was to be
answered, the permissions, the workbench and the approver. Only the model has been asked, and only
the text that had arrived was shown. And a turn fails in no other way. -/
theorem process_broken_off (s : Session τ μ α) (input : String) :
    (∀ rounds t' s' request events e,
      Rounds s.freshTurn (s.say input) rounds t' s' → s'.request? = some request →
      NoResponse (ChatModel.send s'.model request).1 events e →
        s.process input = (.error e, { s' with
          model := (ChatModel.send s'.model request).2
          acts := s'.acts ++ .sent request ::
            (if s.config.streaming then events.filterMap Event.fragment? else []).map .said }) ∧
        ∃ user front context, s'.conversation.pending = some user ∧
          request.messages = front ++ [user.toMessage context]) ∧
    ∀ e after, s.process input = (.error e, after) →
      ∃ rounds t' s' request events, Rounds s.freshTurn (s.say input) rounds t' s' ∧
        s'.request? = some request ∧
        NoResponse (ChatModel.send s'.model request).1 events e := by
  constructor
  · intro rounds t' s' request events e hrounds hrequest hfails
    refine ⟨?_, exists_pending_of_request? hrequest⟩
    have hends : Ends t' s' (.error e) _ := .failed (converse_of_noResponse hrequest hfails)
    have hconfig : s'.config = s.config := hrounds.config_eq
    rw [process_eq, hrounds.continueTurn_eq, hends.continueTurn_eq, hconfig]
  · intro e after hprocess
    obtain ⟨rounds, t', s', hrounds, hends⟩ := exists_rounds s.freshTurn (s.say input)
    rw [← process_eq, hprocess] at hends
    -- Something is pending at each request, so an error at the ending comes from the model.
    obtain ⟨⟨user, hpending⟩, -⟩ := hrounds.sends ⟨_, rfl⟩
    cases hends with
    | failed hconverse =>
        obtain ⟨request, events, hrequest, hfails⟩ := exists_noResponse hpending hconverse
        exact ⟨rounds, t', s', request, events, hrounds, hrequest, hfails⟩

/-! ### A stream that breaks off after a tool use -/

end Session

/-- A model with prepared answers. -/
structure Replayed where
  answers : List (Except Error EventStream)

instance : ChatModel Replayed where
  name _ := "replayed"
  send m _ := (m.answers.headD (.ok []), ⟨m.answers.tail⟩)
  models m := (.ok [], m)

namespace Session

/-- What arrives of a response before its stream breaks off. -/
def halfResponse : List Event := [.text "And ", .toolUse ⟨"2", "execute_bash", .null⟩]

/-- A session whose model asks for a file to be written, and breaks off while it asks for more. -/
def atBreak : Session Obliging Replayed Unanimous :=
  start .standard "1" ⟨⟩
    ⟨[.ok [.ok (.toolUse writeFile), .ok (.endStream none)],
      .ok (halfResponse.map .ok ++ [.error (.transport "reset")])]⟩
    ⟨.trust⟩

/-- The first file is written and its tool trusted; the second tool use leaves no trace. -/
theorem atBreak_broken_off :
    ∃ rounds t' s' request, Rounds atBreak.freshTurn (atBreak.say "write") rounds t' s' ∧
      s'.request? = some request ∧
      NoResponse (ChatModel.send s'.model request).1 halfResponse (.transport "reset") ∧
      s'.permissions.trusted = ["fs_write"] ∧
      s'.conversation.pending = some (.results [⟨"1", [.text "written"], .success⟩]) ∧
      atBreak.process "write" = (.error (.transport "reset"), { s' with
        model := ⟨[]⟩
        acts := s'.acts ++ [.sent request, .said "And "] }) := by
  obtain ⟨rounds, t', s', hrounds, hmodel, htrusted, hpending⟩ :
      ∃ rounds t' s', Rounds atBreak.freshTurn (atBreak.say "write") rounds t' s' ∧
        s'.model = ⟨[.ok (halfResponse.map .ok ++ [.error (.transport "reset")])]⟩ ∧
        s'.permissions.trusted = ["fs_write"] ∧
        s'.conversation.pending = some (.results [⟨"1", [.text "written"], .success⟩]) :=
    ⟨_, _, _, .round rfl (by decide) rfl rfl .none, rfl, by decide +kernel,
      by decide +kernel⟩
  obtain ⟨messages, hsend⟩ := sendable_of_pending hpending
  have hrequest := request?_of_sendable hsend
  have hfails : NoResponse (ChatModel.send s'.model (s'.request messages s'.conversation.tools)).1
      halfResponse (.transport "reset") := by
    rw [hmodel]
    exact .broken ⟨⟨[], rfl⟩, by decide⟩
  obtain ⟨hprocess, -⟩ :=
    (process_broken_off atBreak "write").1 _ _ _ _ _ _ hrounds hrequest hfails
  refine ⟨rounds, t', s', _, hrounds, hrequest, hfails, htrusted, hpending, ?_⟩
  rw [hprocess, hmodel]
  rfl

end Session

end ToolAgent
