import ToolAgent.Proofs.Session.Requests

/-!
# The states of a session

A session gets where it is by calls: turns, compactions and clearings. Between two of them anything
may be changed but the history: permissions, the system prompt, context files, what is pending.

* `Course` — the calls that led to a session, each with the session that it found.
* `Course.paired` — the history of such a session is paired.
* `Course.lastUses_ne_nil_iff` — the history ends with tool uses that have no answer exactly if the
  last call that changed it was a turn that failed after a round of tools (`Stranded`).
-/

namespace ToolAgent

variable {τ μ α π : Type}

/-- Where the history is dropped or left as it is, tool uses have no answer only if they had none
and it is left. -/
theorem Conversation.lastUses_of_history {c c' : Conversation}
    (h : c'.history = [] ∨ c'.history = c.history) :
    c'.lastUses ≠ [] ↔ c.lastUses ≠ [] ∧ c'.history = c.history := by
  constructor
  · intro hlast
    rcases h with hempty | hsame
    · exact absurd (by rw [lastUses, hempty]; rfl) hlast
    · exact ⟨lastUses_congr hsame ▸ hlast, hsame⟩
  · rintro ⟨hlast, hsame⟩
    rwa [lastUses_congr hsame]

namespace Session

variable [Workbench τ π] [ChatModel μ] [Approver α]

/-- The calls that led from a new session to this one, each with the session that it found. -/
inductive Course : List (Session τ μ α × Call) → Session τ μ α → Prop
  | start (config : Config) (conversationId : String) (workbench : τ) (model : μ) (approver : α) :
      Course [] (start config conversationId workbench model approver)
  | call {past s} (call : Call) : Course past s → Course (past ++ [(s, call)]) (s.perform call)
  /-- Anything but the history may be changed between two calls. -/
  | change {past s s'} : Course past s → s'.conversation.history = s.conversation.history →
      Course past s'

theorem Course.paired {past : List (Session τ μ α × Call)} {s : Session τ μ α}
    (h : Course past s) : Paired s.conversation.history := by
  induction h with
  | start => exact paired_start ..
  | call call _ ih => exact paired_perform ih call
  | change _ hhistory ih => exact hhistory ▸ ih

/-! ## Turns that fail on the way -/

/-- A turn fails after a round of tools: a later request than its first gets no response. -/
def CutShort (s : Session τ μ α) (input : String) : Prop :=
  (∃ e, (s.process input).1 = .error e) ∧ 2 ≤ (s.turnRequests input).length

omit [ChatModel μ] in
theorem lastUses_runBatch (s : Session τ μ α) (uses : List ToolUse) :
    (s.runBatch uses).2.conversation.lastUses = s.conversation.lastUses := by
  obtain ⟨reply, hreply, -⟩ := exists_reply s uses
  rw [hreply]
  rfl

/-- After a round the history ends with the tool uses of its response. -/
theorem Rounds.lastUses_ne_nil {t t' : Turn} {s s' : Session τ μ α} {rounds : List (Round τ μ α)}
    (h : Rounds t s rounds t' s') (hrounds : rounds ≠ []) : s'.conversation.lastUses ≠ [] := by
  induction h with
  | none => exact absurd rfl hrounds
  | @round t s r received batch rounds t' s' _ huses hanswer _ hlater ih =>
      cases hlater with
      | round _ _ _ _ _ => exact ih (List.cons_ne_nil _ _)
      | none =>
          obtain ⟨conversation, hanswered, rfl⟩ := answer_eq_ok hanswer
          have hlast : conversation.lastUses = r.toolUses :=
            Conversation.lastUses_of_answer hanswered
          rw [lastUses_runBatch]
          show conversation.lastUses ≠ []
          rw [hlast]
          exact huses

omit [Workbench τ π] [Approver α] in
/-- A turn that succeeds leaves no tool uses without an answer. -/
theorem Ends.lastUses_eq_nil {t : Turn} {s s' : Session τ μ α} {outcome : Outcome}
    (h : Ends t s (.ok outcome) s') : s'.conversation.lastUses = [] := by
  cases h with
  | answered _ _ hanswer =>
      obtain ⟨_, hanswered, rfl⟩ := answer_eq_ok hanswer
      exact Conversation.lastUses_of_answer hanswered
  | limited _ _ _ _ hclose =>
      rw [closeAtLimit_eq] at hclose
      obtain ⟨_, hanswered, rfl⟩ := answer_eq_ok hclose
      exact Conversation.lastUses_of_answer hanswered

omit [Workbench τ π] [Approver α] in
theorem Ends.conversation_of_error {t : Turn} {s s' : Session τ μ α} {e : Error}
    (h : Ends t s (.error e) s') : s'.conversation = s.conversation := by
  cases h with
  | failed hconverse => exact conversation_of_converse hconverse

/-- A turn leaves tool uses without an answer at the end of the history if it fails after a round of
tools. If it fails before that, it leaves the history as it was. -/
theorem lastUses_process (s : Session τ μ α) (input : String) :
    (s.process input).2.conversation.lastUses ≠ [] ↔
      s.CutShort input ∨ s.conversation.lastUses ≠ [] ∧
        (s.process input).2.conversation.history = s.conversation.history := by
  obtain ⟨rounds, t', s', hrounds, hends⟩ := exists_rounds s.freshTurn (s.say input)
  have hlength := length_turnRequests hrounds hends
  change Ends t' s' (s.process input).1 (s.process input).2 at hends
  unfold CutShort
  rw [hlength]
  -- The requests of a turn are one more than its rounds, so a turn is cut short exactly if it fails
  -- and has a round.
  cases hresult : (s.process input).1 with
  | ok outcome =>
      rw [hresult] at hends
      have hnone := hends.lastUses_eq_nil
      constructor
      · intro h
        exact absurd hnone h
      · rintro (⟨⟨e, he⟩, -⟩ | ⟨hbefore, hsame⟩)
        · cases he
        · exact absurd ((Conversation.lastUses_congr hsame).symm.trans hnone) hbefore
  | error e =>
      rw [hresult] at hends
      rw [hends.conversation_of_error]
      cases hrounds with
      | none =>
          have hsame : (s.say input).conversation.history = s.conversation.history := rfl
          simp [Conversation.lastUses_congr hsame, hsame]
      | round hconverse huses hanswer hcan hlater =>
          have hround := Rounds.round hconverse huses hanswer hcan hlater
          have hdangling := hround.lastUses_ne_nil (List.cons_ne_nil _ _)
          refine iff_of_true hdangling (.inl ⟨⟨e, rfl⟩, ?_⟩)
          rw [List.length_cons]
          omega

omit [Workbench τ π] [Approver α] in
/-- A compaction drops the history or leaves it as it was. -/
theorem history_compact (s : Session τ μ α) : s.compact.2.conversation.history = [] ∨
    s.compact.2.conversation.history = s.conversation.history := by
  unfold compact
  split
  · exact .inr rfl
  · dsimp only
    split
    · exact .inr rfl
    · split
      · exact .inr rfl
      · exact .inl rfl

/-- **How tool uses come to have no answer**: by a turn that fails after a round of tools, or they
had none before and the call has left the history as it was. -/
theorem lastUses_perform (s : Session τ μ α) (call : Call) :
    (s.perform call).conversation.lastUses ≠ [] ↔
      (∃ input, call = .process input ∧ s.CutShort input) ∨ s.conversation.lastUses ≠ [] ∧
        (s.perform call).conversation.history = s.conversation.history := by
  cases call with
  | process input =>
      have hprocess := lastUses_process s input
      constructor
      · intro h
        exact (hprocess.mp h).imp_left fun hcut => ⟨input, rfl, hcut⟩
      · rintro (⟨_, ⟨⟩, hcut⟩ | hkept)
        · exact hprocess.mpr (.inl hcut)
        · exact hprocess.mpr (.inr hkept)
  | compact =>
      have hcompact := Conversation.lastUses_of_history s.history_compact
      constructor
      · intro h
        exact .inr (hcompact.mp h)
      · rintro (⟨_, ⟨⟩, _⟩ | hkept)
        exact hcompact.mpr hkept
  | clear =>
      have hclear : s.clear.conversation.lastUses ≠ [] ↔ _ :=
        Conversation.lastUses_of_history (c := s.conversation) (.inl rfl)
      constructor
      · intro h
        exact .inr (hclear.mp h)
      · rintro (⟨_, ⟨⟩, _⟩ | hkept)
        exact hclear.mpr hkept

/-! ## Whole courses -/

/-- Tool uses were left without an answer: some turn was cut short, and no call has changed the
history since. -/
def Stranded (past : List (Session τ μ α × Call)) : Prop :=
  ∃ before s input later, past = before ++ (s, .process input) :: later ∧ s.CutShort input ∧
    ∀ p ∈ later, (p.1.perform p.2).conversation.history = p.1.conversation.history

theorem not_stranded_nil : ¬ Stranded ([] : List (Session τ μ α × Call)) := by
  rintro ⟨before, _, _, _, hpast, -⟩
  cases before <;> cases hpast

theorem stranded_concat {past : List (Session τ μ α × Call)} {s : Session τ μ α} {call : Call} :
    Stranded (past ++ [(s, call)]) ↔
      (∃ input, call = .process input ∧ s.CutShort input) ∨ Stranded past ∧
        (s.perform call).conversation.history = s.conversation.history := by
  constructor
  · rintro ⟨before, cut, input, later, hpast, hcut, hlater⟩
    rcases List.eq_nil_or_concat' later with rfl | ⟨between, last, rfl⟩
    · obtain ⟨-, hlast⟩ := List.append_inj' hpast rfl
      obtain ⟨rfl, rfl⟩ : s = cut ∧ call = .process input := by simpa using hlast
      exact .inl ⟨input, rfl, hcut⟩
    · rw [← List.cons_append, ← List.append_assoc] at hpast
      obtain ⟨rfl, hlast⟩ := List.append_inj' hpast rfl
      obtain rfl : (s, call) = last := by simpa using hlast
      refine .inr ⟨⟨before, cut, input, between, rfl, hcut, ?_⟩, hlater (s, call) (by simp)⟩
      intro p hp
      exact hlater p (List.mem_append_left _ hp)
  · rintro (⟨input, rfl, hcut⟩ | ⟨⟨before, cut, input, later, rfl, hcut, hlater⟩, hsame⟩)
    · exact ⟨past, s, input, [], rfl, hcut, by simp⟩
    · refine ⟨before, cut, input, later ++ [(s, call)], by simp, hcut, ?_⟩
      intro p hp
      rcases List.mem_append.mp hp with hp | hp
      · exact hlater p hp
      · exact List.mem_singleton.mp hp ▸ hsame

/-- **When tool uses have no answer** in the history that a course leads to. -/
theorem Course.lastUses_ne_nil_iff {past : List (Session τ μ α × Call)} {s : Session τ μ α}
    (h : Course past s) : s.conversation.lastUses ≠ [] ↔ Stranded past := by
  induction h with
  | start config conversationId workbench model approver =>
      have hnone : (Session.start config conversationId workbench model
          approver).conversation.lastUses = [] := by
        rw [Conversation.lastUses, history_start]
        rfl
      exact iff_of_false (not_not.mpr hnone) not_stranded_nil
  | call call _ ih => rw [lastUses_perform, stranded_concat, ih]
  | change _ hhistory ih => rwa [Conversation.lastUses_congr hhistory]

end Session

end ToolAgent
