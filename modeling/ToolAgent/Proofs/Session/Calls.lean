import ToolAgent.Proofs.Server.Calling
import ToolAgent.Proofs.Session.Lineup

/-!
# The calls of a turn

A turn may make calls to servers. This module says of each tool use of a turn which call was made
for it, if one was, and how its result comes from what the server put out.

* `Replied` — the result of a call, given what the server's output says to it.
* `Handled` — a tool use with its call and its result. `Treated` and `Dealing` say what tools and
  batches do with it: a tool that runs (`exists_treated_invoke`), the tools of a batch, the batch
  (`exists_handled_runBatch`) and the rounds of a turn (`Rounds.exists_handled`).
* `Session.process_calls` — the same for a whole turn, with what each server has heard after it.
-/

namespace ToolAgent

open Json (Value)

variable {μ α π : Type}

/-! ## What becomes of a call -/

/-- What a reply carries, when it is no failure. -/
def Rpc.Reply.answer (reply : Reply) : Value := reply.result.getD .null

/-- What a call is answered with, when this is what the server's output says to it. -/
inductive Replied (useId : String) : Option (Option Rpc.Reply) → ToolResult → Prop
  | nothing {text} : Replied useId none (.failure useId text)
  | malformed {text} : Replied useId (some none) (.failure useId text)
  | refused {reply text} : reply.failure ≠ none →
      Replied useId (some (some reply)) (.failure useId text)
  /-- The tool says that it has failed. -/
  | failed {reply text} : reply.failure = none → reply.answer.get? "isError" = some (.bool true) →
      Replied useId (some (some reply)) (.failure useId text)
  | done {reply} : reply.failure = none → reply.answer.get? "isError" ≠ some (.bool true) →
      Replied useId (some (some reply))
        ⟨useId, [.json ((reply.answer.get? "content").getD reply.answer)], .success⟩

/-- **A call is answered** as its reply says. -/
theorem Client.replied_request [Peer π] {c : Client π} (h : c.router.Sound) (use : ToolUse)
    (tool : Tool) (method : String) (params : Option Value) :
    Replied use.id (c.replyTo method params)
      (Answered.ofOutcome use tool
        ((c.request method params).1.bind Manager.readAnswer)).result := by
  have hfails (hreply : ∀ reply, c.replyTo method params = some (some reply) →
      reply.failure ≠ none) : ∃ text, (Answered.ofOutcome use tool
        ((c.request method params).1.bind Manager.readAnswer)).result = .failure use.id text := by
    obtain ⟨e, he⟩ := exists_error_of_no_reply h hreply
    exact ⟨e.message, by rw [he]; rfl⟩
  -- Only a reply without an error of its own can come to more than a failure.
  cases hreply : c.replyTo method params with
  | none =>
      obtain ⟨text, htext⟩ := hfails (by simp [hreply])
      rw [htext]
      exact .nothing
  | some content =>
      cases content with
      | none =>
          obtain ⟨text, htext⟩ := hfails (by simp [hreply])
          rw [htext]
          exact .malformed
      | some reply =>
          by_cases hok : reply.failure = none
          · have hrequest : (c.request method params).1 = .ok reply.answer :=
              request_of_reply h hreply hok
            rw [hrequest, Except.bind]
            rcases Manager.readAnswer_cases reply.answer with ⟨hflag, e, he⟩ | ⟨hflag, hdone⟩
            · rw [he]
              exact .failed hok hflag
            · rw [hdone]
              exact .done hok hflag
          · obtain ⟨text, htext⟩ := hfails (by simp [hreply, hok])
            rw [htext]
            exact .refused hok

/-! ## What becomes of a tool use -/

/-- A tool use that was handled. -/
structure Handled where
  use : ToolUse
  /-- The call that was made for it, if one was, and what the server's output says to it. -/
  sent : Option (ServerCall × Option (Option Rpc.Reply))
  result : ToolResult

namespace Handled

/-- A tool use for which no call is made, and that fails. -/
def failed (text : String) (use : ToolUse) : Handled := ⟨use, none, .failure use.id text⟩

/-- The calls that were made, in order. -/
def calls (handled : List Handled) : List (ServerCall × Option (Option Rpc.Reply)) :=
  handled.flatMap (·.sent.toList)

end Handled

/-- How a tool use is treated when the tools of its batch run. -/
inductive Treated (m : Manager π) : Handled → Prop
  /-- One of the program's own tools calls no server. -/
  | own {use result} : use.IsBuiltIn → Treated m ⟨use, none, result⟩
  | uncallable {use text} : ¬ use.IsBuiltIn → m.Uncallable use → Treated m (.failed text use)
  | called {use call reply result} : ¬ use.IsBuiltIn → call.Carries m use →
      Replied use.id reply result → Treated m ⟨use, some (call, reply), result⟩

/-- How a batch deals with its tool uses: it is declined as a whole, which takes a denial, or its
tools run. -/
inductive Dealing (m : Manager π) (denied : Prop) (uses : List ToolUse) : List Handled → Prop
  | declined : denied → Dealing m denied uses (uses.map (.failed cancelledText))
  | dealt {handled} : handled.map (·.use) = uses → (∀ h ∈ handled, Treated m h) →
      Dealing m denied uses handled

/-- A tool use that no call can stand for fails, and nothing is sent for it. -/
theorem Dealing.of_uncallable {m : Manager π} {denied : Prop} {uses : List ToolUse}
    {handled : List Handled} (hdealing : Dealing m denied uses handled) {h : Handled}
    (hmem : h ∈ handled) (hown : ¬ h.use.IsBuiltIn) (hnone : m.Uncallable h.use) :
    h.sent = none ∧ ∃ text, h.result = .failure h.use.id text := by
  cases hdealing with
  | declined _ =>
      obtain ⟨use, -, rfl⟩ := List.mem_map.mp hmem
      exact ⟨rfl, _, rfl⟩
  | dealt _ htreated =>
      cases htreated h hmem with
      | own huse => exact absurd huse hown
      | uncallable _ _ => exact ⟨rfl, _, rfl⟩
      | called _ hcarries _ => exact absurd hcarries (hnone.not_carries _)

/-- Calls do not change how a batch treats its tool uses. -/
theorem Treated.of_keeps {m m' : Manager π} (hkeeps : m'.Keeps m) {h : Handled}
    (htreated : Treated m h) : Treated m' h := by
  cases htreated with
  | own huse => exact .own huse
  | uncallable huse hnone => exact .uncallable huse (hkeeps.symm.uncallable hnone)
  | called huse hcarries hreplied => exact .called huse (hkeeps.symm.carries hcarries) hreplied

theorem Dealing.of_keeps {m m' : Manager π} (hkeeps : m'.Keeps m) {denied : Prop}
    {uses : List ToolUse} {handled : List Handled} (h : Dealing m denied uses handled) :
    Dealing m' denied uses handled := by
  cases h with
  | declined hdenied => exact .declined hdenied
  | dealt huses htreated => exact .dealt huses fun h hmem => (htreated h hmem).of_keeps hkeeps

/-! ## Running tools -/

section Running

variable [Peer π] {start w w' : Toolbox π}

/-- A server's tool runs as a request of the client that is registered for the server. -/
theorem invoke_server {call : ServerCall} {client : Client π}
    (hclient : w.manager.clients.get? call.server = some client) :
    Workbench.invoke w (.server call) =
      ((client.request call.method (some call.params)).1.bind Manager.readAnswer,
        { w with
          manager := { w.manager with
            clients := w.manager.clients.insert call.server
              (client.request call.method (some call.params)).2 } }) := by
  show ((w.manager.call call).1, { w with manager := (w.manager.call call).2 }) = _
  rw [Manager.call_eq hclient]

/-- **Running a tool** makes the call for its tool use, and none if it is one of the program's
own. -/
theorem exists_treated_invoke (hkeeps : start.manager.Keeps w.manager) (hused : w.manager.InUse)
    {use : ToolUse} {tool : Tool} (hresolve : start.manager.resolve use = .ok tool) :
    ∃ sent, Treated start.manager
        ⟨use, sent, (Answered.ofOutcome use tool (Workbench.invoke w tool).1).result⟩ ∧
      Manager.Served w.manager sent.toList (Workbench.invoke w tool).2.manager := by
  by_cases hown : use.IsBuiltIn
  · -- The tool is none of a server's, so it leaves the servers alone.
    refine ⟨none, .own hown, ?_⟩
    cases tool with
    | server call => exact absurd hresolve (start.manager.resolve_builtIn_ne hown call)
    | read _ => exact .nil
    | write _ => exact .nil
    | command _ => exact .nil
  · rw [Manager.resolve_of_not_builtIn hown] at hresolve
    rcases start.manager.resolveServerTool_carries use with ⟨_, hfails, -⟩ | ⟨call, hok, hcarries⟩
    · rw [hfails] at hresolve
      cases hresolve
    · obtain rfl := Except.ok.inj (hok.symm.trans hresolve)
      obtain ⟨client, hclient⟩ := (hkeeps.carries hcarries).registered
      refine ⟨some (call, client.replyTo call.method (some call.params)), ?_, ?_⟩
      · rw [invoke_server hclient]
        exact .called hown hcarries (client.replied_request (hused _ _ hclient).sound ..)
      · rw [invoke_server hclient]
        exact .cons hclient .nil

/-- A tool use that is not ready runs nothing. -/
theorem treated_of_error {use : ToolUse} {r : ToolResult}
    (h : (Candidate.ofUse start use).tool = .error r) :
    Treated start.manager ⟨use, none, r⟩ := by
  by_cases hown : use.IsBuiltIn
  · exact .own hown
  · have hserver : (Workbench.manager start).resolve use = start.manager.resolveServerTool use :=
      Manager.resolve_of_not_builtIn hown
    rcases start.manager.resolveServerTool_carries use with ⟨text, hfails, hnone⟩ | ⟨call, hok, -⟩
    · simp only [Candidate.ofUse, hserver, hfails] at h
      obtain rfl := Except.error.inj h
      exact .uncallable hown hnone
    · -- A call to a server is always valid.
      have hvalid : Workbench.validate start (.server call) = .ok () := rfl
      simp only [Candidate.ofUse, hserver, hok, hvalid] at h
      cases h

/-- **Running the tools of a batch** treats each of its tool uses, and the calls that are made for
them are all that is sent. -/
theorem exists_handled_of_running {dealt : List Dealt} {answers : List Answered}
    {uses : List ToolUse} (h : Running w dealt answers w')
    (hdealt : dealt.map (·.candidate) = uses.map (Candidate.ofUse start))
    (hkeeps : start.manager.Keeps w.manager) (hused : w.manager.InUse) :
    ∃ handled : List Handled, handled.map (·.use) = uses ∧
      handled.map (·.result) = answers.map (·.result) ∧ (∀ h ∈ handled, Treated start.manager h) ∧
      Manager.Served w.manager (Handled.calls handled) w'.manager := by
  induction h generalizing uses with
  | done =>
      obtain rfl := List.map_eq_nil_iff.mp hdealt.symm
      exact ⟨[], rfl, rfl, by simp, .nil⟩
  | @failed w w' h r rest answers htool _ ih =>
      obtain ⟨use, later, rfl, huse, hlater⟩ := List.map_eq_cons_iff.mp hdealt.symm
      obtain ⟨handled, huses, hresults, htreated, hserved⟩ := ih hlater.symm hkeeps hused
      have hhead := treated_of_error (huse ▸ htool : (Candidate.ofUse start use).tool = .error r)
      refine ⟨⟨use, none, r⟩ :: handled, ?_, ?_, List.forall_mem_cons.mpr ⟨hhead, htreated⟩, ?_⟩
      · rw [List.map_cons, huses]
      · rw [List.map_cons, List.map_cons, hresults]
      · exact hserved
  | @ran w w' h tool rest answers htool _ ih =>
      obtain ⟨use, later, rfl, huse, hlater⟩ := List.map_eq_cons_iff.mp hdealt.symm
      have hcandidate : h.candidate = Candidate.ofUse start use := huse.symm
      have hresolve := (Candidate.ofUse_eq_ok (hcandidate ▸ htool)).1
      -- The servers may have heard calls since the batch began, but they are still the same.
      obtain ⟨sent, hhead, hcall⟩ := exists_treated_invoke hkeeps hused hresolve
      obtain ⟨handled, huses, hresults, htreated, hserved⟩ :=
        ih hlater.symm (hkeeps.trans hcall.keeps) (hcall.inUse hused)
      refine ⟨⟨use, sent, _⟩ :: handled, ?_, ?_, List.forall_mem_cons.mpr ⟨hhead, htreated⟩, ?_⟩
      · rw [List.map_cons, huses]
      · rw [List.map_cons, List.map_cons, hresults, hcandidate]
        rfl
      · exact hcall.append hserved

end Running

/-! ## The batches of a turn -/

/-- The results that are staged. -/
def Conversation.staged (c : Conversation) : List ToolResult :=
  c.pending.toList.flatMap (·.toolResults)

section Turns

variable [Peer π] [Approver α]

/-- Somebody says no when this batch is run. -/
def Session.Denies (s : Session (Toolbox π) μ α) (uses : List ToolUse) : Prop :=
  ∃ use description,
    Act.asked use description .no ∈ (s.runBatch uses).2.acts.drop s.acts.length

/-- How a round of a turn is handled. -/
structure Round.HandledBy (m : Manager π) (round : Round (Toolbox π) μ α)
    (handled : List Handled) : Prop where
  dealing : Dealing m (round.batch.Denies round.response.toolUses) round.response.toolUses handled
  staged : (round.batch.runBatch round.response.toolUses).2.conversation.staged =
    handled.map (·.result)
  /-- A tool use that no call can stand for fails, and nothing is sent for it. -/
  uncallable : ∀ h ∈ handled, ¬ h.use.IsBuiltIn → m.Uncallable h.use →
    h.sent = none ∧ ∃ text, h.result = .failure h.use.id text

namespace Session

/-- **A batch** treats its tool uses, stages what they come to, and calls the servers for them. -/
theorem exists_handled_runBatch {s : Session (Toolbox π) μ α} (uses : List ToolUse)
    (hused : s.workbench.manager.InUse) :
    ∃ handled, Dealing s.workbench.manager (s.Denies uses) uses handled ∧
      (s.runBatch uses).2.conversation.staged = handled.map (·.result) ∧
      Manager.Served s.workbench.manager (Handled.calls handled)
        (s.runBatch uses).2.workbench.manager := by
  obtain ⟨dealt, hrun⟩ := s.runBatch_spec uses
  rw [Denies]
  cases hresult : s.runBatch uses with
  | mk ran after =>
      rw [hresult] at hrun
      cases hrun with
      | denied _ hhearing =>
          obtain ⟨earlier, use, description, hquestions, -⟩ := hhearing.questions_of_none
          have hcalls : Handled.calls (uses.map (.failed cancelledText)) = [] := by
            simp [Handled.calls, Handled.failed]
          refine ⟨_, .declined ⟨use, description, ?_⟩, ?_, hcalls ▸ .nil⟩
          · rw [hquestions, List.drop_left]
            exact List.mem_append_right _ List.mem_cons_self
          · simp [Conversation.staged, Conversation.abandon, UserMessage.cancel,
              UserMessage.toolResults, Handled.failed]
      | completed hcandidates _ hrunning =>
          obtain ⟨handled, huses, hresults, htreated, hserved⟩ :=
            exists_handled_of_running hrunning hcandidates (.refl _) hused
          refine ⟨handled, .dealt huses htreated, ?_, hserved⟩
          rw [hresults]
          exact List.append_nil _

variable [ChatModel μ]

/-- **The rounds of a turn** treat their tool uses, and the calls that are made for them are all
that is sent. -/
theorem Rounds.exists_handled {t t' : Turn} {s s' : Session (Toolbox π) μ α}
    {rounds : List (Round (Toolbox π) μ α)} (h : Rounds t s rounds t' s') {m : Manager π}
    (hkeeps : m.Keeps s.workbench.manager) (hused : s.workbench.manager.InUse) :
    ∃ handled : List (List Handled), List.Forall₂ (Round.HandledBy m) rounds handled ∧
      Manager.Served s.workbench.manager (handled.flatMap Handled.calls) s'.workbench.manager := by
  induction h with
  | none => exact ⟨[], .nil, .nil⟩
  | @round t s r received batch rounds t' s' hconverse _ hanswer _ _ ih =>
      have hsame : batch.workbench = s.workbench :=
        (workbench_of_answer hanswer).trans (workbench_of_converse hconverse)
      rw [← hsame] at hkeeps hused ⊢
      obtain ⟨first, hdealing, hstaged, hserved⟩ := exists_handled_runBatch r.toolUses hused
      obtain ⟨later, hrounds, hrest⟩ := ih (hkeeps.trans hserved.keeps) (hserved.inUse hused)
      have hdealing := hdealing.of_keeps hkeeps
      exact ⟨first :: later,
        .cons ⟨hdealing, hstaged, fun _ hmem => hdealing.of_uncallable hmem⟩ hrounds,
        hserved.append hrest⟩

omit [Peer π] [Approver α] in
/-- At the limit tool uses are answered with failures. -/
theorem Ends.exists_skipped {τ : Type} {t : Turn} {s s' received : Session τ μ α}
    {result : Except Error Outcome} (h : Ends t s result s') {r : Response}
    (hconverse : s.converse = (.ok r, received)) (huses : r.toolUses ≠ []) :
    ∃ e, s'.conversation.history.getLast? = some e ∧
      e.user.toolResults = r.toolUses.map fun use => .failure use.id (skippedText t.round) := by
  cases h with
  | failed hfailed =>
      rw [hconverse] at hfailed
      cases hfailed
  | answered hother hnone _ =>
      rw [hconverse] at hother
      cases hother
      exact absurd hnone huses
  | limited hother _ _ _ hclose =>
      rw [hconverse] at hother
      cases hother
      rw [closeAtLimit_eq] at hclose
      obtain ⟨_, hanswer, rfl⟩ := answer_eq_ok hclose
      cases hanswer
      exact ⟨_, by rw [getLast?_prune, List.getLast?_concat], rfl⟩

omit [Approver α] [ChatModel μ] in
/-- The clients of a session that is opened are in use if they were before. -/
theorem inUse_of_open {pages : Nat} {config : Config} {conversationId : String} {box : Toolbox π}
    {model : μ} {approver : α} {s : Session (Toolbox π) μ α} (hused : box.manager.InUse)
    (h : open? pages config conversationId box model approver = some s) :
    s.workbench.manager.InUse := by
  obtain ⟨loaded, hload, rfl⟩ := Option.map_eq_some_iff.mp h
  exact hused.load hload

/-- **The calls of a turn are faithful**, and nothing else is sent. Each batch of a turn is handled
as `Dealing` says: a call that is made for a tool use `Carries` what the tool use says, its result
is what was `Replied`, and where no call can stand for a tool use, none is made and it fails. Tool
uses beyond the limit fail, too. After the turn each server has heard the calls that were made to
it, in their order. All this holds for servers that were started and listed before
(`inUse_of_open`), and again after the turn. -/
theorem process_calls {s : Session (Toolbox π) μ α} (hused : s.workbench.manager.InUse)
    (input : String) :
    ∃ (rounds : List (Round (Toolbox π) μ α)) (t' : Turn) (s' : Session (Toolbox π) μ α)
      (handled : List (List Handled)),
      Rounds s.freshTurn (s.say input) rounds t' s' ∧
      Ends t' s' (s.process input).1 (s.process input).2 ∧
      List.Forall₂ (Round.HandledBy s.workbench.manager) rounds handled ∧
      (∀ r received, s'.converse = (.ok r, received) → r.toolUses ≠ [] →
        ∃ e, (s.process input).2.conversation.history.getLast? = some e ∧
          e.user.toolResults =
            r.toolUses.map fun use => .failure use.id (skippedText t'.round)) ∧
      (∀ name client, s.workbench.manager.clients.get? name = some client →
        ∃ client', (s.process input).2.workbench.manager.clients.get? name = some client' ∧
          client'.peer = Peer.told client.peer (client.lines
            (Manager.requestsTo name (handled.flatMap Handled.calls)))) ∧
      Manager.Served s.workbench.manager (handled.flatMap Handled.calls)
        (s.process input).2.workbench.manager ∧
      (s.process input).2.workbench.manager.InUse := by
  obtain ⟨rounds, t', s', hrounds, hends⟩ := exists_rounds s.freshTurn (s.say input)
  obtain ⟨handled, hhandled, hserved⟩ := hrounds.exists_handled (.refl _) hused
  rw [← hends.workbench_eq] at hserved
  refine ⟨rounds, t', s', handled, hrounds, hends, hhandled, ?_, ?_, hserved,
    hserved.inUse hused⟩
  · intro r received hconverse huses
    exact hends.exists_skipped hconverse huses
  · intro name client hclient
    exact hserved.exists_told hclient

end Session

end Turns

namespace Session

/-- A session with the server that reports a tool, which answers one call, and with a model that
asks for the tool. -/
def atGreeter : Option (Session (Toolbox PreparedServer) ModelScript Unanimous) :=
  open? 1 .standard "1"
    { place := ⟨"/", "/", 0, []⟩
      tree := .dir []
      manager := .ofConfig (fun _ => .ok ⟨Manager.greeter.answers ++
        ["\x7b\"id\":2,\"result\":\x7b\"content\":[]\x7d\x7d\n"]⟩) 1 (Manager.serversOf ["docs"]) }
    [.toolUses "" [⟨"1", "docs___hello", .null⟩], .text "done"] ⟨.yes⟩

/-- The content of the answer is the result. -/
theorem process_calls_greeter : ∃ s, atGreeter = some s ∧ s.workbench.manager.InUse ∧
    (∃ (rounds : List (Round (Toolbox PreparedServer) ModelScript Unanimous))
      (handled : List (List Handled)),
      List.Forall₂ (Round.HandledBy s.workbench.manager) rounds handled ∧
      Manager.Served s.workbench.manager (handled.flatMap Handled.calls)
        (s.process "greet").2.workbench.manager) ∧
    (s.process "greet").2.conversation.history.map (·.user) =
      [.prompt "greet", .results [⟨"1", [.json (.list [])], .success⟩]] := by
  have hhistory : atGreeter.map (fun s =>
      (s.process "greet").2.conversation.history.map (·.user)) =
      some [.prompt "greet", .results [⟨"1", [.json (.list [])], .success⟩]] := by
    decide +kernel
  obtain ⟨s, hs, hhistory⟩ := Option.map_eq_some_iff.mp hhistory
  have hused : s.workbench.manager.InUse := inUse_of_open (Manager.inUse_ofConfigBy _ _ _ _) hs
  obtain ⟨rounds, _, _, handled, -, -, hhandled, -, -, hserved, -⟩ := process_calls hused "greet"
  exact ⟨s, hs, hused, ⟨rounds, handled, hhandled, hserved⟩, hhistory⟩

end Session

end ToolAgent
