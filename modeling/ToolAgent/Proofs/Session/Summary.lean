import ToolAgent.Proofs.Session.Compaction
import ToolAgent.Proofs.Session.Failure
import ToolAgent.Proofs.Text.Trim

/-!
# What a compaction leaves

A compaction throws the history away, and so it does that last. `Compaction` lists its outcomes:
there is nothing to summarize, the request gets no response, the response is blank, or its text is
the summary from then on. Only the last one changes the conversation. `compact_outcome` says that
there are no others, and that the request carries all that is thrown away.
-/

namespace ToolAgent.Session

variable {τ μ α : Type} [ChatModel μ] {s : Session τ μ α}

/-- The session once it has asked for a summary. -/
def asked (s : Session τ μ α) : Session τ μ α :=
  { s with
    model := (ChatModel.send s.model s.compactionRequest).2
    acts := s.acts ++ [.sent s.compactionRequest] }

/-- The outcomes of a compaction. -/
inductive Compaction (s : Session τ μ α) : Except Error (Option String) → Session τ μ α → Prop
  /-- Without a history nothing is asked, and nothing happens. -/
  | nothing : s.conversation.history = [] → Compaction s (.ok none) s
  /-- The request gets no response, whatever had arrived of it. -/
  | unanswered {events : List Event} {e : Error} : s.conversation.history ≠ [] →
      NoResponse (ChatModel.send s.model s.compactionRequest).1 events e →
        Compaction s (.error e) s.asked
  /-- The response has nothing but blanks, and perhaps tool uses. -/
  | blank {stream : EventStream} {events : List Event} : s.conversation.history ≠ [] →
      (ChatModel.send s.model s.compactionRequest).1 = .ok stream → stream.Completes events →
      (∀ c ∈ (textOf events).toList, Text.isBlank c = true) →
        Compaction s (.error (.conversation "model returned an empty summary")) s.asked
  /-- The text of the response, without the blanks around it, stands for the history. -/
  | summarized {stream : EventStream} {events : List Event} {summary : String} :
      s.conversation.history ≠ [] →
      (ChatModel.send s.model s.compactionRequest).1 = .ok stream → stream.Completes events →
      Text.Trims (textOf events).toList summary.toList → summary ≠ "" →
        Compaction s (.ok (some summary)) { s.asked with
          conversation := { s.conversation with summary := some summary, history := [] } }

/-! ## The outcomes -/

theorem compact_of_history (h : s.conversation.history ≠ []) :
    s.compact =
      match (ChatModel.send s.model s.compactionRequest).1.bind fun stream =>
        (collect stream).response with
      | .error e => (.error e, s.asked)
      | .ok r =>
        if Text.trim r.text = "" then
          (.error (.conversation "model returned an empty summary"), s.asked)
        else (.ok (some (Text.trim r.text)), { s.asked with
          conversation := s.conversation.compact (Text.trim r.text) }) := by
  simp only [compact, if_neg h, send, note, asked]
  cases (ChatModel.send s.model s.compactionRequest).1 with
  | error e => rfl
  | ok stream => rfl

namespace Compaction

variable {result : Except Error (Option String)} {after : Session τ μ α}

/-- A compaction comes to its outcome. -/
theorem compact_eq (h : Compaction s result after) : s.compact = (result, after) := by
  cases h with
  | nothing hhistory => rw [compact, if_pos hhistory]
  | unanswered hhistory hfails => rw [compact_of_history hhistory, hfails.drained]
  | blank hhistory hsend hcompletes hblank =>
      obtain ⟨r, hr, htext⟩ := collect_of_completes hcompletes
      have hempty : Text.trim r.text = "" := by
        rw [htext]
        exact Text.trim_eq_iff.mpr (Text.trims_nil_iff.mpr hblank)
      rw [compact_of_history hhistory, hsend, Except.bind, hr]
      exact if_pos hempty
  | @summarized stream events summary hhistory hsend hcompletes htrims hsome =>
      obtain ⟨r, hr, htext⟩ := collect_of_completes hcompletes
      obtain rfl : Text.trim r.text = summary := by
        rw [htext]
        exact Text.trim_eq_iff.mpr htrims
      rw [compact_of_history hhistory, hsend, Except.bind, hr]
      exact if_neg hsome

end Compaction

/-- A compaction has an outcome. -/
theorem exists_compaction (s : Session τ μ α) : ∃ result after, Compaction s result after := by
  by_cases hhistory : s.conversation.history = []
  · exact ⟨_, _, .nothing hhistory⟩
  · rcases exists_noResponse_or_completes (ChatModel.send s.model s.compactionRequest).1 with
      ⟨events, e, hfails⟩ | ⟨stream, events, hsend, hcompletes⟩
    · exact ⟨_, _, .unanswered hhistory hfails⟩
    · have htrims := Text.trim_eq_iff.mp (Eq.refl (Text.trim (textOf events)))
      by_cases hempty : Text.trim (textOf events) = ""
      · rw [hempty] at htrims
        exact ⟨_, _, .blank hhistory hsend hcompletes (Text.trims_nil_iff.mp htrims)⟩
      · exact ⟨_, _, .summarized hhistory hsend hcompletes htrims hempty⟩

theorem compact_eq_iff {result : Except Error (Option String)} {after : Session τ μ α} :
    s.compact = (result, after) ↔ Compaction s result after := by
  constructor
  · intro hcompact
    obtain ⟨result', after', houtcome⟩ := exists_compaction s
    obtain ⟨rfl, rfl⟩ := Prod.mk.inj (houtcome.compact_eq.symm.trans hcompact)
    exact houtcome
  · exact Compaction.compact_eq

/-! ## The call -/

/-- **A compaction is all or nothing, and asks about everything that it throws away.** It has one of
the outcomes of `Compaction`. The request offers no tools; it begins with the summary of what went
before, if there is one, goes on with the messages of the history in order, and ends with what is
wanted. -/
theorem compact_outcome (s : Session τ μ α) :
    (∀ result after, s.compact = (result, after) ↔ Compaction s result after) ∧
    s.compactionRequest.tools = [] ∧
    ∃ earlier, s.compactionRequest.messages =
        .system compactionSystemPrompt :: (earlier ++ s.conversation.history.flatMap (fun e =>
          [e.user.toMessage none, e.assistant.toMessage]) ++ [.user compactionPrompt []]) ∧
      (s.conversation.summary = none → earlier = []) ∧
      ∀ text, s.conversation.summary = some text → ∃ lead reply,
        earlier = [.user (lead ++ text) [], .assistant reply []] := by
  refine ⟨fun result after => compact_eq_iff, rfl, ?_⟩
  refine ⟨s.conversation.summaryMessages "Summary of the conversation before this point:" "Noted.",
    rfl, fun hnone => ?_, fun text htext => ?_⟩
  · rw [Conversation.summaryMessages, hnone]
  · rw [Conversation.summaryMessages, htext]
    exact ⟨_, _, rfl⟩

end ToolAgent.Session
