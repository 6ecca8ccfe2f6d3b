import ToolAgent.Proofs.Server.Resolution
import ToolAgent.Session.Batch

/-!
# How a batch is handled

A batch goes through three passes: its tool uses are resolved, the approver is heard about those
that need consent, and the tools run. This module says as rules what each pass does, and says once
that the functions follow the rules; everything else about batches is read off the rules.

* `Notes` — which acts are added to what was done from one session to another.
* `Hearing` — the questions and answers, and what they come to: the tools that are trusted from now
  on, or nothing after a no.
* `Running` — the tools that run, one after the other, and what the batch answers.
* `BatchRun` — the whole batch: denied, with everything but the approver as it was, or completed.
  `runBatch_spec` is the one statement about `runBatch` that others should use.
-/

namespace ToolAgent

variable {τ μ α π : Type}

/-! ## What is noted -/

/-- Whether an act is a question about a tool or the run of one. -/
def Act.concernsTool : Act → Bool
  | .asked _ _ _ => true
  | .invoked _ _ _ => true
  | .sent _ => false
  | .said _ => false

/-- From one session to another, acts are only added to what was done, and all of them satisfy
`P`. -/
def Notes (P : Act → Prop) (s s' : Session τ μ α) : Prop :=
  ∃ log, s'.acts = s.acts ++ log ∧ ∀ act ∈ log, P act

namespace Notes

variable {P Q : Act → Prop} {s s' s'' : Session τ μ α}

theorem of_acts_eq (h : s'.acts = s.acts) : Notes P s s' :=
  ⟨[], by rw [h, List.append_nil], by simp⟩

theorem trans (h : Notes P s s') (h' : Notes P s' s'') : Notes P s s'' := by
  obtain ⟨log, hacts, hlog⟩ := h
  obtain ⟨log', hacts', hlog'⟩ := h'
  refine ⟨log ++ log', by rw [hacts', hacts, List.append_assoc], ?_⟩
  intro act hact
  rcases List.mem_append.mp hact with hact | hact
  · exact hlog act hact
  · exact hlog' act hact

theorem imp (h : Notes P s s') (hPQ : ∀ act, P act → Q act) : Notes Q s s' := by
  obtain ⟨log, hacts, hlog⟩ := h
  exact ⟨log, hacts, fun act hact => hPQ act (hlog act hact)⟩

/-- The acts that were added are those behind the ones there before. -/
theorem of_mem_drop (h : Notes P s s') {act : Act} (hact : act ∈ s'.acts.drop s.acts.length) :
    P act := by
  obtain ⟨log, hacts, hlog⟩ := h
  rw [hacts, List.drop_left] at hact
  exact hlog act hact

end Notes

/-! ## Candidates -/

namespace Candidate

variable [Workbench τ π] {workbench : τ} {use : ToolUse}

/-- A candidate is ready only if its tool use resolves and is valid. -/
theorem ofUse_eq_ok {tool : Tool} (h : (ofUse workbench use).tool = .ok tool) :
    (Workbench.manager workbench).resolve use = .ok tool ∧
      Workbench.validate workbench tool = .ok () := by
  simp only [ofUse] at h
  split at h
  · cases h
  · next resolved hresolve =>
      split at h
      · next hvalid =>
          obtain rfl := Except.ok.inj h
          exact ⟨hresolve, hvalid⟩
      · cases h

/-- What a candidate fails with answers its tool use. -/
theorem useId_of_ofUse {r : ToolResult} (h : (ofUse workbench use).tool = .error r) :
    r.useId = use.id := by
  simp only [ofUse] at h
  split at h
  · next hresolve =>
      obtain rfl := Except.error.inj h
      exact Manager.useId_of_resolve hresolve
  · split at h
    · cases h
    · exact Except.error.inj h ▸ rfl

end Candidate

/-! ## Hearing the approver -/

/-- A candidate, and the question put to the approver about it, if there was one. -/
structure Heard where
  candidate : Candidate
  /-- What the approver was told, and what the answer was. -/
  question : Option (String × Approval)

/-- The question as it was put. -/
def Heard.questions (h : Heard) : List Act :=
  match h.question with
  | some (description, answer) => [.asked h.candidate.use description answer]
  | none => []

theorem Heard.concernsTool {h : Heard} {act : Act} (hact : act ∈ h.questions) :
    act.concernsTool = true := by
  unfold questions at hact
  split at hact
  · rw [List.mem_singleton.mp hact]; rfl
  · cases hact

/-- How the approver is heard about candidates, while some tools are trusted by answers on the way.
The last argument is what the hearing comes to: the tools trusted by its answers, or nothing. -/
inductive Hearing (p : Permissions) (describe : Tool → String) :
    List String → List Heard → Option (List String) → Prop
  | done {trusted} : Hearing p describe trusted [] (some trusted)
  | failed {trusted c r rest ending} : c.tool = .error r → Hearing p describe trusted rest ending →
      Hearing p describe trusted (⟨c, none⟩ :: rest) ending
  /-- Nobody is asked about a tool that needs no consent or that was trusted on the way. -/
  | exempt {trusted c tool rest ending} : c.tool = .ok tool →
      p.mustAsk tool = false ∨ tool.name ∈ trusted → Hearing p describe trusted rest ending →
      Hearing p describe trusted (⟨c, none⟩ :: rest) ending
  | yes {trusted c tool rest ending} : c.tool = .ok tool → Hearing p describe trusted rest ending →
      Hearing p describe trusted (⟨c, some (describe tool, .yes)⟩ :: rest) ending
  | trust {trusted c tool rest ending} : c.tool = .ok tool →
      Hearing p describe (trusted ++ [tool.name]) rest ending →
      Hearing p describe trusted (⟨c, some (describe tool, .trust)⟩ :: rest) ending
  /-- After a no, nobody is asked about the rest. -/
  | no {trusted c tool} {rest : List Candidate} : c.tool = .ok tool →
      Hearing p describe trusted (⟨c, some (describe tool, .no)⟩ :: rest.map (⟨·, none⟩)) none

namespace Session

variable [Workbench τ π] [Approver α]

omit [Workbench τ π] in
/-- A question changes the approver, and is noted with its answer. -/
theorem ask_spec {s after : Session τ μ α} {use : ToolUse} {description : String}
    {answer : Approval} (h : s.ask use description = (answer, after)) :
    ∃ approver, after = { s with approver, acts := s.acts ++ [.asked use description answer] } := by
  obtain ⟨rfl, rfl⟩ := Prod.mk.inj h
  exact ⟨_, rfl⟩

/-- **Asking follows the rules of a hearing**, and touches nothing but the approver. -/
theorem askEach_spec (trusted : List String) (candidates : List Candidate) (s : Session τ μ α) :
    ∃ (heard : List Heard) (approver : α), heard.map (·.candidate) = candidates ∧
      Hearing s.permissions (Workbench.describe s.workbench) trusted heard
        (askEach trusted candidates s).1 ∧
      (askEach trusted candidates s).2 =
        { s with approver, acts := s.acts ++ heard.flatMap Heard.questions } := by
  induction candidates generalizing trusted s with
  | nil => exact ⟨[], s.approver, rfl, .done, by simp [askEach]⟩
  | cons c rest ih =>
      unfold askEach
      split
      · next r hfail =>
          obtain ⟨heard, approver, rfl, hhearing, hafter⟩ := ih trusted s
          exact ⟨⟨c, none⟩ :: heard, approver, rfl, .failed hfail hhearing, hafter⟩
      · next tool htool =>
          split
          · next hexempt =>
              obtain ⟨heard, approver, rfl, hhearing, hafter⟩ := ih trusted s
              have hreason : s.permissions.mustAsk tool = false ∨ tool.name ∈ trusted := by
                simpa using hexempt
              exact ⟨⟨c, none⟩ :: heard, approver, rfl, .exempt htool hreason hhearing, hafter⟩
          · -- The answer decides; the session that goes on differs by the question alone.
            cases hask : s.ask c.use (Workbench.describe s.workbench tool) with
            | mk answer after =>
                cases answer with
                | yes =>
                    obtain ⟨heard, approver, rfl, hhearing, hafter⟩ := ih trusted after
                    obtain ⟨asked, rfl⟩ := ask_spec hask
                    refine ⟨⟨c, some (_, .yes)⟩ :: heard, approver, rfl, .yes htool hhearing, ?_⟩
                    rw [hafter]
                    simp [Heard.questions]
                | trust =>
                    obtain ⟨heard, approver, rfl, hhearing, hafter⟩ :=
                      ih (trusted ++ [tool.name]) after
                    obtain ⟨asked, rfl⟩ := ask_spec hask
                    refine ⟨⟨c, some (_, .trust)⟩ :: heard, approver, rfl,
                      .trust htool hhearing, ?_⟩
                    rw [hafter]
                    simp [Heard.questions]
                | no =>
                    obtain ⟨asked, rfl⟩ := ask_spec hask
                    refine ⟨⟨c, some (_, .no)⟩ :: rest.map (⟨·, none⟩), asked, ?_, .no htool, ?_⟩
                    · simp [Function.comp_def]
                    · simp [Heard.questions, List.flatMap_map]

end Session

/-! ## Running the tools -/

/-- A candidate that was heard, and the tool that ran for it, if one did. -/
structure Dealt extends Heard where
  /-- The tool and what came of it. -/
  run : Option (Tool × Except Error Output)

/-- The run as it was noted. -/
def Dealt.invocations (d : Dealt) : List Act :=
  match d.run with
  | some (tool, outcome) => [.invoked d.candidate.use tool outcome]
  | none => []

theorem Dealt.eq_of_mem_invocations {d : Dealt} {act : Act} (hact : act ∈ d.invocations) :
    ∃ tool outcome, d.run = some (tool, outcome) ∧ act = .invoked d.candidate.use tool outcome := by
  unfold invocations at hact
  split at hact
  · next tool outcome hrun => exact ⟨tool, outcome, hrun, List.mem_singleton.mp hact⟩
  · cases hact

/-- How the tools of a batch run, from one workbench to another: each ready tool once, in order,
and what the batch answers. -/
inductive Running [Workbench τ π] : τ → List Dealt → List Answered → τ → Prop
  | done {w} : Running w [] [] w
  | failed {w w' h r rest answers} : h.candidate.tool = .error r → Running w rest answers w' →
      Running w (⟨h, none⟩ :: rest) (⟨none, r⟩ :: answers) w'
  | ran {w w' h tool rest answers} : h.candidate.tool = .ok tool →
      Running (Workbench.invoke w tool).2 rest answers w' →
      Running w (⟨h, some (tool, (Workbench.invoke w tool).1)⟩ :: rest)
        (.ofOutcome h.candidate.use tool (Workbench.invoke w tool).1 :: answers) w'

namespace Session

/-- **Invoking follows the rules of running**, and touches nothing but the workbench. -/
theorem invokeEach_spec [Workbench τ π] (heard : List Heard) (s : Session τ μ α) :
    ∃ (dealt : List Dealt) (workbench : τ), dealt.map (·.toHeard) = heard ∧
      Running s.workbench dealt (invokeEach (heard.map (·.candidate)) s).1 workbench ∧
      (invokeEach (heard.map (·.candidate)) s).2 =
        { s with workbench, acts := s.acts ++ dealt.flatMap Dealt.invocations } := by
  induction heard generalizing s with
  | nil => exact ⟨[], s.workbench, rfl, .done, by simp [invokeEach]⟩
  | cons h rest ih =>
      rw [List.map_cons, invokeEach]
      split
      · next r hfail =>
          obtain ⟨dealt, workbench, hdealt, hrunning, hafter⟩ := ih s
          refine ⟨⟨h, none⟩ :: dealt, workbench, ?_, .failed hfail hrunning, hafter⟩
          rw [List.map_cons, hdealt]
      · next tool htool =>
          obtain ⟨dealt, workbench, hdealt, hrunning, hafter⟩ :=
            ih (s.invoke h.candidate.use tool).2
          refine ⟨⟨h, some (tool, (Workbench.invoke s.workbench tool).1)⟩ :: dealt, workbench, ?_,
            .ran htool hrunning, ?_⟩
          · rw [List.map_cons, hdealt]
          · dsimp only
            rw [hafter]
            simp [invoke, note, Dealt.invocations]

end Session

/-! ## The whole batch -/

/-- How a batch of tool uses runs from a session: what became of each use, which tools ran, and the
session after it. -/
inductive BatchRun [Workbench τ π] (s : Session τ μ α) (uses : List ToolUse) :
    List Dealt → List Execution × Session τ μ α → Prop
  /-- Somebody said no: every use is declined, and only the approver has changed. -/
  | denied {heard : List Heard} {approver : α} :
      heard.map (·.candidate) = uses.map (Candidate.ofUse s.workbench) →
      Hearing s.permissions (Workbench.describe s.workbench) [] heard none →
      BatchRun s uses (heard.map (⟨·, none⟩))
        ([], { s with
          approver
          acts := s.acts ++ heard.flatMap Heard.questions
          conversation := s.conversation.abandon uses none })
  /-- Nobody said no: the trust that was given is kept, the tools run, and their results are
  staged. -/
  | completed {dealt : List Dealt} {trusted : List String} {answers : List Answered}
      {workbench : τ} {approver : α} :
      dealt.map (·.candidate) = uses.map (Candidate.ofUse s.workbench) →
      Hearing s.permissions (Workbench.describe s.workbench) [] (dealt.map (·.toHeard))
        (some trusted) →
      Running s.workbench dealt answers workbench →
      BatchRun s uses dealt
        (answers.filterMap Answered.execution?, { s with
          approver
          workbench
          permissions := trusted.foldl .trust s.permissions
          acts := s.acts ++
            (dealt.flatMap (·.toHeard.questions) ++ dealt.flatMap Dealt.invocations)
          conversation := s.conversation.addResults (answers.map (·.result)) })

namespace Session

/-- **A batch follows the rules.** -/
theorem runBatch_spec [Workbench τ π] [Approver α] (uses : List ToolUse) (s : Session τ μ α) :
    ∃ dealt, BatchRun s uses dealt (s.runBatch uses) := by
  obtain ⟨heard, approver, hcandidates, hhearing, hasked⟩ :=
    askEach_spec [] (uses.map (Candidate.ofUse s.workbench)) s
  unfold runBatch
  dsimp only
  generalize askEach [] (uses.map (Candidate.ofUse s.workbench)) s = asked at hhearing hasked ⊢
  obtain ⟨ending, after⟩ := asked
  obtain rfl := hasked
  cases ending with
  | none => exact ⟨_, .denied hcandidates hhearing⟩
  | some trusted =>
      dsimp only
      rw [← hcandidates]
      obtain ⟨dealt, workbench, rfl, hrunning, hinvoked⟩ := invokeEach_spec heard
        { s with
          approver
          acts := s.acts ++ heard.flatMap Heard.questions
          permissions := trusted.foldl .trust s.permissions }
      rw [hinvoked]
      refine ⟨dealt, ?_⟩
      have hrun := @BatchRun.completed τ μ α π _ s uses dealt trusted _ workbench approver
        (by simpa [Function.comp_def] using hcandidates) hhearing hrunning
      simpa [List.flatMap_map] using hrun

/-- A batch adds to what was done only what concerns tools. -/
theorem notes_runBatch [Workbench τ π] [Approver α] (s : Session τ μ α) (uses : List ToolUse) :
    Notes (·.concernsTool = true) s (s.runBatch uses).2 := by
  obtain ⟨dealt, hrun⟩ := runBatch_spec uses s
  cases hresult : s.runBatch uses with
  | mk ran after =>
      rw [hresult] at hrun
      cases hrun with
      | denied _ _ =>
          refine ⟨_, rfl, ?_⟩
          intro act hact
          obtain ⟨h, -, hact⟩ := List.mem_flatMap.mp hact
          exact h.concernsTool hact
      | completed _ _ _ =>
          refine ⟨_, rfl, ?_⟩
          intro act hact
          rcases List.mem_append.mp hact with hact | hact
          · obtain ⟨d, -, hact⟩ := List.mem_flatMap.mp hact
            exact d.toHeard.concernsTool hact
          · obtain ⟨d, -, hact⟩ := List.mem_flatMap.mp hact
            obtain ⟨_, _, -, rfl⟩ := d.eq_of_mem_invocations hact
            rfl

end Session

end ToolAgent
