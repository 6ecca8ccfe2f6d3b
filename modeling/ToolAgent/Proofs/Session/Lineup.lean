import ToolAgent.Proofs.Asking
import ToolAgent.Proofs.Session.Replies

/-!
# The results of a batch

A batch that nobody denies stages one result for each of its tool uses, in their order. Which tools
run is settled before any of them does, and each of them acts on what those before it have left.

* `Workbench.ready` — the tools of a batch that run.
* `Settled` — what a tool use may be answered with.
* `Session.runBatch_completed` — the results line up with the tool uses, and what runs is each tool
  that is ready, once.
-/

namespace ToolAgent

variable {τ μ α π : Type}

/-- Questions are all that is put to the approver. -/
theorem Heard.exists_eq_asked {h : Heard} {act : Act} (hact : act ∈ h.questions) :
    ∃ use description answer, act = .asked use description answer := by
  unfold questions at hact
  split at hact
  · exact ⟨_, _, _, List.mem_singleton.mp hact⟩
  · cases hact

/-! ## What runs -/

/-- The candidates that are ready, with their tools. -/
def Candidate.ready (candidates : List Candidate) : List (ToolUse × Tool) :=
  candidates.filterMap fun c => c.tool.toOption.map (c.use, ·)

theorem Candidate.ready_cons_error {c : Candidate} {r : ToolResult} (h : c.tool = .error r)
    (rest : List Candidate) : ready (c :: rest) = ready rest := by
  simp [ready, h, Except.toOption]

theorem Candidate.ready_cons_ok {c : Candidate} {tool : Tool} (h : c.tool = .ok tool)
    (rest : List Candidate) : ready (c :: rest) = (c.use, tool) :: ready rest := by
  simp [ready, h, Except.toOption]

/-- A tool use does not resolve, is not valid, or is ready. -/
theorem Candidate.ofUse_cases [Workbench τ π] (w : τ) (use : ToolUse) :
    (∃ text, (Workbench.manager w).resolve use = .error (.failure use.id text) ∧
      (ofUse w use).tool = .error (.failure use.id text)) ∨
    (∃ tool e, (Workbench.manager w).resolve use = .ok tool ∧
      Workbench.validate w tool = .error e ∧
      (ofUse w use).tool = .error (.failure use.id e.message)) ∨
    ∃ tool, (Workbench.manager w).resolve use = .ok tool ∧ Workbench.validate w tool = .ok () ∧
      (ofUse w use).tool = .ok tool := by
  rw [ofUse]
  rcases Manager.resolve_cases (Workbench.manager w) use with ⟨text, h⟩ | ⟨tool, h, -⟩
  · exact .inl ⟨text, h, by rw [h]⟩
  · cases hvalid : Workbench.validate w tool with
    | error e => exact .inr (.inl ⟨tool, e, h, hvalid, by simp only [h, hvalid]⟩)
    | ok _ => exact .inr (.inr ⟨tool, h, hvalid, by simp only [h, hvalid]⟩)

namespace Workbench

variable [Workbench τ π]

/-- The tool uses that resolve and are valid at a workbench, with their tools. -/
def ready (w : τ) (uses : List ToolUse) : List (ToolUse × Tool) :=
  Candidate.ready (uses.map (Candidate.ofUse w))

/-- Runs tools, one after the other: the runs as they are noted, and the workbench after them. -/
def runAll (w : τ) (tools : List (ToolUse × Tool)) : List Act × τ :=
  askAll (fun w t => (invoke w t.2).map (Act.invoked t.1 t.2) id) w tools

theorem runAll_cons (w : τ) (use : ToolUse) (tool : Tool) (rest : List (ToolUse × Tool)) :
    runAll w ((use, tool) :: rest) =
      (.invoked use tool (invoke w tool).1 :: (runAll (invoke w tool).2 rest).1,
        (runAll (invoke w tool).2 rest).2) := rfl

end Workbench

namespace Running

variable [Workbench τ π] {w w' : τ} {dealt : List Dealt} {answers : List Answered}

/-- What runs is each tool that is ready, once and in order. -/
theorem runAll_eq (h : Running w dealt answers w') :
    Workbench.runAll w (Candidate.ready (dealt.map (·.candidate))) =
      (dealt.flatMap Dealt.invocations, w') := by
  induction h with
  | done => rfl
  | failed htool _ ih =>
      rw [List.map_cons, Candidate.ready_cons_error htool, ih]
      rfl
  | ran htool _ ih =>
      rw [List.map_cons, Candidate.ready_cons_ok htool, Workbench.runAll_cons, ih]
      rfl

/-- Each tool runs on what those before it have left. -/
theorem run_eq {earlier later : List Dealt} {d : Dealt}
    (h : Running w (earlier ++ d :: later) answers w') : d.run =
      d.candidate.tool.toOption.map fun tool => (tool, (Workbench.invoke
        (Workbench.runAll w (Candidate.ready (earlier.map (·.candidate)))).2 tool).1) := by
  generalize hdealt : earlier ++ d :: later = dealt at h
  induction h generalizing earlier with
  | done => simp at hdealt
  | @failed w w' h r rest answers htool _ ih =>
      rcases List.append_eq_cons_iff.mp hdealt with ⟨rfl, hhead⟩ | ⟨earlier, rfl, hrest⟩
      · obtain ⟨rfl, -⟩ := List.cons.inj hhead
        rw [htool]
        rfl
      · rw [ih hrest.symm, List.map_cons, Candidate.ready_cons_error htool]
  | @ran w w' h tool rest answers htool _ ih =>
      rcases List.append_eq_cons_iff.mp hdealt with ⟨rfl, hhead⟩ | ⟨earlier, rfl, hrest⟩
      · obtain ⟨rfl, -⟩ := List.cons.inj hhead
        rw [htool]
        rfl
      · rw [ih hrest.symm, List.map_cons, Candidate.ready_cons_ok htool, Workbench.runAll_cons]

end Running

/-! ## What a tool use is answered with -/

/-- What a tool use of a batch is answered with, when the batch begins at the workbench `w` and the
tool uses of `earlier` come before this one. -/
inductive Settled [Workbench τ π] (w : τ) (earlier : List ToolUse) (use : ToolUse) :
    ToolResult → Prop
  | unresolved {text} : (Workbench.manager w).resolve use = .error (.failure use.id text) →
      Settled w earlier use (.failure use.id text)
  | invalid {tool e} : (Workbench.manager w).resolve use = .ok tool →
      Workbench.validate w tool = .error e → Settled w earlier use (.failure use.id e.message)
  | failed {tool e} : (Workbench.manager w).resolve use = .ok tool →
      Workbench.validate w tool = .ok () →
      (Workbench.invoke (Workbench.runAll w (Workbench.ready w earlier)).2 tool).1 = .error e →
      Settled w earlier use (.failure use.id e.message)
  | done {tool output} : (Workbench.manager w).resolve use = .ok tool →
      Workbench.validate w tool = .ok () →
      (Workbench.invoke (Workbench.runAll w (Workbench.ready w earlier)).2 tool).1 = .ok output →
      Settled w earlier use (output.toResult use.id)

theorem Settled.useId_eq [Workbench τ π] {w : τ} {earlier : List ToolUse} {use : ToolUse}
    {r : ToolResult} (h : Settled w earlier use r) : r.useId = use.id := by
  cases h <;> rfl

theorem Dealt.answer_of_error {d : Dealt} {r : ToolResult} (hrun : d.run = none)
    (htool : d.candidate.tool = .error r) : d.answer = ⟨none, r⟩ := by
  rw [answer, hrun, htool]

theorem Dealt.answer_of_run {d : Dealt} {tool : Tool} {outcome : Except Error Output}
    (hrun : d.run = some (tool, outcome)) :
    d.answer = .ofOutcome d.candidate.use tool outcome := by
  rw [answer, hrun]

/-- What became of a tool use settles it. -/
theorem Running.settled [Workbench τ π] {w w' : τ} {earlier later : List Dealt} {d : Dealt}
    {answers : List Answered} (h : Running w (earlier ++ d :: later) answers w')
    {before : List ToolUse} {use : ToolUse}
    (hearlier : earlier.map (·.candidate) = before.map (Candidate.ofUse w))
    (hd : d.candidate = Candidate.ofUse w use) : Settled w before use d.answer.result := by
  let left := (Workbench.runAll w (Workbench.ready w before)).2
  have hrun : d.run = (Candidate.ofUse w use).tool.toOption.map fun tool =>
      (tool, (Workbench.invoke left tool).1) := by
    rw [h.run_eq, hearlier, hd]
    rfl
  rcases Candidate.ofUse_cases w use with ⟨text, hresolve, htool⟩ |
    ⟨tool, e, hresolve, hvalid, htool⟩ | ⟨tool, hresolve, hvalid, htool⟩
  · rw [htool] at hrun
    rw [d.answer_of_error hrun (hd ▸ htool)]
    exact .unresolved hresolve
  · rw [htool] at hrun
    rw [d.answer_of_error hrun (hd ▸ htool)]
    exact .invalid hresolve hvalid
  · rw [htool] at hrun
    rw [d.answer_of_run hrun, hd]
    cases houtcome : (Workbench.invoke left tool).1 with
    | error e => exact .failed hresolve hvalid houtcome
    | ok output => exact .done hresolve hvalid houtcome

namespace Session

variable [Workbench τ π] [Approver α]

/-- **The results of a batch line up with its tool uses**, unless somebody says no. As many results
are staged as there are tool uses, each with the id of the tool use in its place, and each tool use
is `Settled` by its result. The tools that are ready at the start of the batch run after all
questions, in order and each once, and nothing else runs. -/
theorem runBatch_completed {s : Session τ μ α} {uses : List ToolUse}
    (hno : ∀ use description,
      Act.asked use description .no ∉ (s.runBatch uses).2.acts.drop s.acts.length) :
    ∃ (results : List ToolResult) (questions : List Act),
      (s.runBatch uses).2.conversation = s.conversation.addResults results ∧
      results.length = uses.length ∧
      (∀ before use after, uses = before ++ use :: after → ∃ r, results[before.length]? = some r ∧
        r.useId = use.id ∧ Settled s.workbench before use r) ∧
      (∀ act ∈ questions, ∃ use description answer, act = .asked use description answer) ∧
      (s.runBatch uses).2.acts = s.acts ++
        (questions ++ (Workbench.runAll s.workbench (Workbench.ready s.workbench uses)).1) ∧
      (s.runBatch uses).2.workbench =
        (Workbench.runAll s.workbench (Workbench.ready s.workbench uses)).2 := by
  obtain ⟨dealt, hrun⟩ := s.runBatch_spec uses
  cases hresult : s.runBatch uses with
  | mk ran after =>
      rw [hresult] at hrun hno
      cases hrun with
      | denied _ hhearing =>
          -- A batch that comes to nothing has a no as its last question.
          obtain ⟨earlier, use, description, hquestions, -⟩ := hhearing.questions_of_none
          refine absurd ?_ (hno use description)
          rw [hquestions, List.drop_left]
          exact List.mem_append_right _ List.mem_cons_self
      | @completed _ trusted answers workbench approver hcandidates hhearing hrunning =>
          obtain rfl := hrunning.answers_eq
          have hall := hrunning.runAll_eq
          rw [hcandidates] at hall
          refine ⟨(dealt.map Dealt.answer).map (·.result), dealt.flatMap (·.toHeard.questions), rfl,
            ?_, ?_, ?_, ?_, ?_⟩
          · simpa using congrArg List.length hcandidates
          · -- The candidate of a use is dealt with in the same place.
            rintro before use later rfl
            rw [List.map_append, List.map_cons] at hcandidates
            obtain ⟨earlier, rest, rfl, hearlier, hrest⟩ := List.map_eq_append_iff.mp hcandidates
            obtain ⟨d, rest, rfl, hd, -⟩ := List.map_eq_cons_iff.mp hrest
            have hlength : before.length = earlier.length := by
              simpa using (congrArg List.length hearlier).symm
            have hsettled := hrunning.settled hearlier hd
            exact ⟨d.answer.result, by simp [hlength], hsettled.useId_eq, hsettled⟩
          · intro act hact
            obtain ⟨d, -, hact⟩ := List.mem_flatMap.mp hact
            exact d.toHeard.exists_eq_asked hact
          · rw [Workbench.ready, hall]
          · rw [Workbench.ready, hall]

/-- A call to a tool that there is not fails, and one of the same id that writes a file runs. -/
theorem runBatch_lost_writeFile :
    (∀ use description, Act.asked use description .no ∉
      (atDesk.runBatch [⟨"1", "lost", .null⟩, writeFile]).2.acts.drop atDesk.acts.length) ∧
    (atDesk.runBatch [⟨"1", "lost", .null⟩, writeFile]).2.conversation =
      atDesk.conversation.addResults
        [.failure "1" "No tool with name lost found", ⟨"1", [.text "written"], .success⟩] := by
  have hacts : ∃ description tool outcome,
      (atDesk.runBatch [⟨"1", "lost", .null⟩, writeFile]).2.acts.drop atDesk.acts.length =
        [.asked writeFile description .yes, .invoked writeFile tool outcome] :=
    ⟨_, _, _, rfl⟩
  have hno : ∀ use description, Act.asked use description .no ∉
      (atDesk.runBatch [⟨"1", "lost", .null⟩, writeFile]).2.acts.drop atDesk.acts.length := by
    obtain ⟨_, _, _, hacts⟩ := hacts
    intro use description
    rw [hacts]
    simp
  obtain ⟨results, _, hstaged, hlength, heach, -⟩ := runBatch_completed hno
  obtain ⟨lost, written, rfl⟩ := List.length_eq_two.mp hlength
  obtain ⟨_, hfirst, -, hlost⟩ := heach [] _ _ rfl
  obtain ⟨_, hsecond, -, hwritten⟩ := heach [_] _ [] rfl
  cases hfirst
  cases hsecond
  refine ⟨hno, hstaged.trans ?_⟩
  cases hlost with
  | unresolved h =>
      cases h
      cases hwritten with
      | unresolved h => cases h
      | invalid _ h => cases h
      | failed _ _ h => cases h
      | done _ _ h =>
          cases h
          rfl
  | invalid h => cases h
  | failed h => cases h
  | done h => cases h

end Session

end ToolAgent
