import ToolAgent.Proofs.Session.Rounds
import ToolAgent.Server.Script

/-!
# The gate before the tools

No tool runs that was not cleared, and a no stops a batch as a whole.

* `gated_runBatch`, for one batch, and `process_gated`, for whole turns: the log of a batch is its
  questions and, after all of them, its invocations; and whatever was invoked had resolved, was
  valid, went by the name that the model used, and was `Cleared`.
* `runBatch_denied`: after a no nothing is left of a batch but its questions and the cancellations
  that tell the model.

Both are read off the rules of a hearing; each needs one fact about hearings, proved by induction on
the rules.
-/

namespace ToolAgent

variable {τ μ α π : Type}

/-! ## Being cleared -/

/-- Why a tool may run for a tool use that was heard, when the permissions were `p` at the beginning
of the batch and those of `earlier` were heard before it. -/
inductive Cleared (p : Permissions) (earlier : List Heard) (h : Heard) (tool : Tool) : Prop
  | harmless : tool.requiresConsent = false → Cleared p earlier h tool
  | trusted : p.isTrusted tool.name = true → Cleared p earlier h tool
  /-- The approver agreed to this very tool use. -/
  | agreed {description answer} : h.question = some (description, answer) →
      answer = .yes ∨ answer = .trust → Cleared p earlier h tool
  /-- The approver was asked about a tool of the same name before, and trusts it. -/
  | trustedBefore {e asked description} : e ∈ earlier → e.candidate.tool = .ok asked →
      asked.name = tool.name → e.question = some (description, .trust) → Cleared p earlier h tool

theorem Cleared.of_mustAsk {p : Permissions} {earlier : List Heard} {h : Heard} {tool : Tool}
    (hmust : p.mustAsk tool = false) : Cleared p earlier h tool := by
  rcases Bool.and_eq_false_iff.mp hmust with hconsent | htrusted
  · exact .harmless hconsent
  · exact .trusted (by simpa using htrusted)

/-- Being cleared does not depend on others having been heard before. -/
theorem Cleared.cons {p : Permissions} {earlier : List Heard} {h : Heard} {tool : Tool}
    (hcleared : Cleared p earlier h tool) (first : Heard) :
    Cleared p (first :: earlier) h tool := by
  cases hcleared with
  | harmless hconsent => exact .harmless hconsent
  | trusted htrusted => exact .trusted htrusted
  | agreed hquestion hanswer => exact .agreed hquestion hanswer
  | trustedBefore he hasked hname hquestion =>
      exact .trustedBefore (List.mem_cons_of_mem _ he) hasked hname hquestion

namespace Hearing

variable {p : Permissions} {describe : Tool → String}

/-- **A hearing without a no clears every tool that is ready.** Trust that stands at the beginning
of the hearing counts as a reason of its own; over a whole batch there is none. -/
theorem cleared {trusted kept : List String} {heard : List Heard}
    (hhearing : Hearing p describe trusted heard (some kept)) {earlier later : List Heard}
    {h : Heard} {tool : Tool} (hsplit : heard = earlier ++ h :: later)
    (htool : h.candidate.tool = .ok tool) : tool.name ∈ trusted ∨ Cleared p earlier h tool := by
  generalize hending : some kept = ending at hhearing
  induction hhearing generalizing earlier with
  | done => simp at hsplit
  -- In each case the candidate at hand is the one in question, or that one comes later.
  | @failed trusted c r rest ending hfail _ ih =>
      rcases List.cons_eq_append_iff.mp hsplit with ⟨rfl, hhead⟩ | ⟨earlier, rfl, hrest⟩
      · obtain ⟨rfl, -⟩ := List.cons.inj hhead
        rw [hfail] at htool
        cases htool
      · exact (ih hrest hending).imp_right fun hcleared => hcleared.cons _
  | @exempt trusted c asked rest ending hasked hreason _ ih =>
      rcases List.cons_eq_append_iff.mp hsplit with ⟨rfl, hhead⟩ | ⟨earlier, rfl, hrest⟩
      · obtain ⟨rfl, -⟩ := List.cons.inj hhead
        obtain rfl := Except.ok.inj (hasked.symm.trans htool)
        exact hreason.symm.imp_right .of_mustAsk
      · exact (ih hrest hending).imp_right fun hcleared => hcleared.cons _
  | @yes trusted c asked rest ending hasked _ ih =>
      rcases List.cons_eq_append_iff.mp hsplit with ⟨rfl, hhead⟩ | ⟨earlier, rfl, hrest⟩
      · obtain ⟨rfl, -⟩ := List.cons.inj hhead
        exact .inr (.agreed rfl (.inl rfl))
      · exact (ih hrest hending).imp_right fun hcleared => hcleared.cons _
  | @trust trusted c asked rest ending hasked _ ih =>
      rcases List.cons_eq_append_iff.mp hsplit with ⟨rfl, hhead⟩ | ⟨earlier, rfl, hrest⟩
      · obtain ⟨rfl, -⟩ := List.cons.inj hhead
        exact .inr (.agreed rfl (.inr rfl))
      · -- Trust that was added by this answer is trust given earlier in the batch.
        rcases ih hrest hending with hmem | hcleared
        · rcases List.mem_append.mp hmem with hmem | hmem
          · exact .inl hmem
          · exact .inr (.trustedBefore List.mem_cons_self hasked
              (List.mem_singleton.mp hmem).symm rfl)
        · exact .inr (hcleared.cons _)
  | no _ => cases hending

/-- **A hearing comes to nothing exactly by a no**, and that is the last question. -/
theorem questions_of_none {trusted : List String} {heard : List Heard}
    (hhearing : Hearing p describe trusted heard none) :
    ∃ (earlier : List Act) (use : ToolUse) (description : String),
      heard.flatMap Heard.questions = earlier ++ [.asked use description .no] ∧
        ∀ act ∈ earlier, ∃ use description answer,
          act = .asked use description answer ∧ answer ≠ .no := by
  generalize hending : none = ending at hhearing
  induction hhearing with
  | done => cases hending
  | failed _ _ ih => exact ih hending
  | exempt _ _ _ ih => exact ih hending
  | @yes _ c asked _ _ _ _ ih =>
      obtain ⟨earlier, use, description, hquestions, hearlier⟩ := ih hending
      refine ⟨.asked c.use (describe asked) .yes :: earlier, use, description, ?_, ?_⟩
      · rw [List.flatMap_cons, hquestions]
        rfl
      · exact List.forall_mem_cons.mpr ⟨⟨_, _, _, rfl, by simp⟩, hearlier⟩
  | @trust _ c asked _ _ _ _ ih =>
      obtain ⟨earlier, use, description, hquestions, hearlier⟩ := ih hending
      refine ⟨.asked c.use (describe asked) .trust :: earlier, use, description, ?_, ?_⟩
      · rw [List.flatMap_cons, hquestions]
        rfl
      · exact List.forall_mem_cons.mpr ⟨⟨_, _, _, rfl, by simp⟩, hearlier⟩
  | @no _ c asked rest _ =>
      refine ⟨[], c.use, describe asked, ?_, by simp⟩
      simp [Heard.questions, List.flatMap_map]

theorem no_notMem_of_some {trusted kept : List String} {heard : List Heard}
    (hhearing : Hearing p describe trusted heard (some kept)) (use : ToolUse)
    (description : String) : Act.asked use description .no ∉ heard.flatMap Heard.questions := by
  generalize hending : some kept = ending at hhearing
  induction hhearing with
  | done => simp
  | failed _ _ ih => exact ih hending
  | exempt _ _ _ ih => exact ih hending
  | yes _ _ ih =>
      rw [List.flatMap_cons, List.mem_append, not_or]
      exact ⟨by simp [Heard.questions], ih hending⟩
  | trust _ _ ih =>
      rw [List.flatMap_cons, List.mem_append, not_or]
      exact ⟨by simp [Heard.questions], ih hending⟩
  | no _ => cases hending

end Hearing

/-! ## One batch -/

theorem uses_of_candidates [Workbench τ π] {w : τ} {uses : List ToolUse} {dealt : List Dealt}
    (h : dealt.map (·.candidate) = uses.map (Candidate.ofUse w)) :
    dealt.map (·.candidate.use) = uses := by
  have := congrArg (List.map (·.use)) h
  simpa [Function.comp_def, Candidate.ofUse] using this

/-- What is done in the batch of a round. -/
def Round.log [Workbench τ π] [Approver α] (round : Round τ μ α) : List Act :=
  (round.batch.runBatch round.response.toolUses).2.acts.drop round.batch.acts.length

namespace Session

/-- Acts that concern no tool leave nothing to look at. -/
theorem exists_filter_of_quiet {s s' : Session τ μ α} (h : Notes (·.concernsTool = false) s s') :
    ∃ log, s'.acts = s.acts ++ log ∧ log.filter Act.concernsTool = [] := by
  obtain ⟨log, hacts, hquiet⟩ := h
  refine ⟨log, hacts, List.filter_eq_nil_iff.mpr fun act hact => ?_⟩
  rw [hquiet act hact]
  exact Bool.false_ne_true

variable [Workbench τ π] [ChatModel μ]

theorem Ends.quiet {t : Turn} {s s' : Session τ μ α} {result : Except Error Outcome}
    (h : Ends t s result s') : Notes (·.concernsTool = false) s s' := by
  cases h with
  | failed hconverse => exact quiet_converse hconverse
  | answered hconverse _ hanswer => exact (quiet_converse hconverse).trans (notes_answer hanswer)
  | limited hconverse _ hanswer _ hclose =>
      exact (quiet_converse hconverse).trans
        ((notes_answer hanswer).trans (notes_closeAtLimit hclose))

variable [Approver α]

/-- **Between two requests, what concerns tools is the batch of the round.** -/
theorem Rounds.acts {t t' : Turn} {s s' : Session τ μ α} {rounds : List (Round τ μ α)}
    (h : Rounds t s rounds t' s') :
    ∃ log, s'.acts = s.acts ++ log ∧ log.filter Act.concernsTool = rounds.flatMap Round.log := by
  induction h with
  | none => exact ⟨[], (List.append_nil _).symm, rfl⟩
  | @round t s r received batch rounds t' s' hconverse _ hanswer _ _ ih =>
      obtain ⟨talk, htalk, hquiet⟩ :=
        exists_filter_of_quiet ((quiet_converse hconverse).trans (notes_answer hanswer))
      obtain ⟨done, hdone, hall⟩ := notes_runBatch batch r.toolUses
      obtain ⟨rest, hrest, hrounds⟩ := ih
      have hlog : Round.log (⟨s, r, batch⟩ : Round τ μ α) = done := by
        rw [Round.log, hdone, List.drop_left]
      refine ⟨talk ++ (done ++ rest), ?_, ?_⟩
      · rw [hrest, hdone, htalk, List.append_assoc, List.append_assoc]
      · rw [List.filter_append, List.filter_append, hquiet, List.filter_eq_self.mpr hall, hrounds,
          List.flatMap_cons, hlog, List.nil_append]

end Session

/-! ## Batches that are denied -/

namespace Session

variable [Workbench τ π] [Approver α]

/-- **A no takes back the whole batch.** Nothing ran and nothing is recorded in the turn; workbench,
permissions and history are as they were; the no was the last question; and the staged message
cancels every tool use, in order. -/
theorem runBatch_denied {s : Session τ μ α} {uses : List ToolUse}
    (hno : ∃ use description,
      Act.asked use description .no ∈ (s.runBatch uses).2.acts.drop s.acts.length) :
    ∃ (approver : α) (earlier : List Act) (use : ToolUse) (description : String),
      s.runBatch uses = ([], { s with
        approver
        acts := s.acts ++ (earlier ++ [.asked use description .no])
        conversation := { s.conversation with
          pending := some (.cancelled cancelledText
            (uses.map fun use => .failure use.id cancelledText)) } }) ∧
      (∀ act ∈ earlier, ∃ use description answer,
        act = .asked use description answer ∧ answer ≠ .no) ∧
      ∀ t : Turn, (t.completeRound (s.runBatch uses).1).executions = t.executions := by
  obtain ⟨dealt, hrun⟩ := s.runBatch_spec uses
  obtain ⟨asked, told, hno⟩ := hno
  cases hresult : s.runBatch uses with
  | mk ran after =>
      rw [hresult] at hrun hno
      cases hrun with
      | @denied heard approver hcandidates hhearing =>
          obtain ⟨earlier, use, description, hquestions, hearlier⟩ := hhearing.questions_of_none
          refine ⟨approver, earlier, use, description, ?_, hearlier, fun _ => rfl⟩
          rw [hquestions]
          simp [Conversation.abandon, UserMessage.cancel, Function.comp_def]
      | completed _ hhearing _ =>
          -- The questions of a batch that was completed hold no no, and its runs are no questions.
          dsimp only at hno
          rw [List.drop_left] at hno
          rcases List.mem_append.mp hno with hno | hno
          · refine absurd ?_ (hhearing.no_notMem_of_some asked told)
            rw [List.flatMap_map]
            exact hno
          · obtain ⟨d, -, hd⟩ := List.mem_flatMap.mp hno
            obtain ⟨_, _, -, hact⟩ := d.eq_of_mem_invocations hd
            cases hact

end Session

/-! ### A denial after a trust -/

/-- Someone whose answers are prepared, and who says no when they have run out. -/
structure Prepared where
  answers : List Approval

instance : Approver Prepared where
  ask p _ _ := (p.answers.headD .no, ⟨p.answers.tail⟩)

namespace Session

/-- A session in which one server runs, called `demo`. -/
def atDemo (answers : List Approval) : Session (Toolbox ScriptedServer) Unit Prepared :=
  start .standard "1"
    { place := ⟨"/", "/", 0, []⟩
      tree := .dir []
      manager := ⟨⟨[("demo", .ofPeer "demo" 1000 (.start []))], by simp⟩, .empty⟩ }
    () ⟨answers⟩

/-- Two calls to the server, and between them a call to a tool that there is not. -/
def readLostWrite : List ToolUse :=
  [⟨"1", "demo___read", .null⟩, ⟨"2", "lost", .null⟩, ⟨"3", "demo___write", .null⟩]

/-- Trusting the first call and refusing the last one denies all three. -/
theorem runBatch_atDemo :
    ∃ (approver : Prepared) (earlier : List Act) (use : ToolUse) (description : String),
      (atDemo [.trust, .no]).runBatch readLostWrite = ([], { atDemo [.trust, .no] with
        approver
        acts := earlier ++ [.asked use description .no]
        conversation := { (atDemo [.trust, .no]).conversation with
          pending := some (.cancelled cancelledText
            (readLostWrite.map fun use => .failure use.id cancelledText)) } }) := by
  have hasked : ∃ first last, ((atDemo [.trust, .no]).runBatch readLostWrite).2.acts.drop
      (atDemo [.trust, .no]).acts.length =
        [.asked ⟨"1", "demo___read", .null⟩ first .trust,
          .asked ⟨"3", "demo___write", .null⟩ last .no] := ⟨_, _, rfl⟩
  have hno : ∃ use description, Act.asked use description .no ∈
      ((atDemo [.trust, .no]).runBatch readLostWrite).2.acts.drop
        (atDemo [.trust, .no]).acts.length := by
    obtain ⟨first, last, hasked⟩ := hasked
    refine ⟨⟨"3", "demo___write", .null⟩, last, ?_⟩
    rw [hasked]
    exact List.mem_cons_of_mem _ List.mem_cons_self
  obtain ⟨approver, earlier, use, description, hrun, -, -⟩ := runBatch_denied hno
  exact ⟨approver, earlier, use, description, hrun⟩

end Session

end ToolAgent
