import ToolAgent.Proofs.Conversation.Operations
import ToolAgent.Proofs.Permissions
import ToolAgent.Proofs.Session.Gate
import ToolAgent.Proofs.Session.Requests
import ToolAgent.Session.Command

/-!
# Whom a session trusts

What a session trusts is what its user said it should, in the configuration, by commands, and by the
answers to its questions. An answer counts once its batch is through without a no.

* `trustGiven` — the tools that the answers in a log give trust to, read off its questions alone:
  between two requests there is one batch.
* `turn_entrusts` — a turn changes the permissions by that trust and by nothing else, however it
  ends.
* `isTrusted_iff` — whatever happens to a session, a tool is trusted exactly if the changes made by
  its user leave it trusted.
-/

namespace ToolAgent

variable {τ μ α π : Type}

/-! ## Trust given by answers -/

/-- The name of the tool that an act gives trust to. -/
def Act.trusted? : Act → Option String
  | .asked use _ .trust => some use.name
  | _ => none

/-- Whether an act is a no. -/
def Act.refuses : Act → Bool
  | .asked _ _ .no => true
  | _ => false

/-- The tools that the answers of a batch give trust to: nothing after a no. -/
def batchTrust (acts : List Act) : List String :=
  if acts.any Act.refuses then [] else acts.filterMap Act.trusted?

/-- The tools that the answers in a log give trust to, batch by batch. -/
def trustGiven (log : List Act) : List String :=
  (log.splitOnP (·.request?.isSome)).flatMap batchTrust

theorem trustGiven_nil : trustGiven [] = [] := by
  rw [trustGiven, List.splitOnP_nil]
  rfl

theorem trustGiven_sent (request : ChatRequest) (log : List Act) :
    trustGiven (.sent request :: log) = trustGiven log := by
  rw [trustGiven, ← List.nil_append (Act.sent request :: log), List.splitOnP_append_cons _ _ rfl,
    List.splitOnP_nil, List.singleton_append, List.flatMap_cons]
  rfl

/-- What is done up to a request is one batch. -/
theorem trustGiven_append {acts later : List Act} (hacts : ∀ act ∈ acts, act.request? = none)
    (hlater : ∀ first ∈ later.head?, ∃ request, first = .sent request) :
    trustGiven (acts ++ later) = batchTrust acts ++ trustGiven later := by
  have hbatch : acts.splitOnP (·.request?.isSome) = [acts] :=
    List.splitOnP_eq_singleton fun act hact => by rw [hacts act hact]; rfl
  cases later with
  | nil =>
      rw [List.append_nil, trustGiven, hbatch, trustGiven_nil]
      rfl
  | cons first rest =>
      obtain ⟨request, rfl⟩ := hlater first rfl
      rw [trustGiven_sent, trustGiven, List.splitOnP_append_cons _ _ rfl, hbatch,
        List.singleton_append, List.flatMap_cons]
      rfl

/-- Texts that are shown give no trust. -/
theorem batchTrust_said (texts : List String) (acts : List Act) :
    batchTrust (texts.map .said ++ acts) = batchTrust acts := by
  have hrefuses : (texts.map Act.said).any Act.refuses = false := by simp [Act.refuses]
  have htrusted : (texts.map Act.said).filterMap Act.trusted? = [] := by
    simp [List.filterMap_eq_nil_iff, Act.trusted?]
  rw [batchTrust, List.any_append, hrefuses, Bool.false_or, List.filterMap_append, htrusted]
  rfl

/-- A request, the texts of its response and a batch give the trust of the batch. -/
theorem trustGiven_round {request : ChatRequest} {texts : List String} {acts later : List Act}
    (hacts : ∀ act ∈ acts, act.concernsTool = true)
    (hlater : ∀ first ∈ later.head?, ∃ request, first = .sent request) :
    trustGiven (.sent request :: (texts.map .said ++ acts ++ later)) =
      batchTrust acts ++ trustGiven later := by
  have hquiet : ∀ act ∈ texts.map Act.said ++ acts, act.request? = none := by
    intro act hact
    rcases List.mem_append.mp hact with hact | hact
    · obtain ⟨text, -, rfl⟩ := List.mem_map.mp hact
      rfl
    · exact Session.request?_of_concernsTool (hacts act hact)
  rw [trustGiven_sent, trustGiven_append hquiet hlater, batchTrust_said]

theorem Act.eq_of_refuses {act : Act} (h : act.refuses = true) :
    ∃ use description, act = .asked use description .no := by
  cases act with
  | asked use description answer =>
      cases answer with
      | no => exact ⟨use, description, rfl⟩
      | yes => cases h
      | trust => cases h
  | sent _ => cases h
  | said _ => cases h
  | invoked _ _ _ => cases h

/-- What runs gives no trust, and is no refusal. -/
theorem Dealt.trusted?_of_invocations {d : Dealt} {act : Act} (h : act ∈ d.invocations) :
    act.trusted? = none ∧ act.refuses = false := by
  obtain ⟨_, _, -, rfl⟩ := d.eq_of_mem_invocations h
  exact ⟨rfl, rfl⟩

/-- Without a no, all answers of a batch that give trust count. -/
theorem batchTrust_of_dealt {dealt : List Dealt} (hno : ∀ use description,
      Act.asked use description .no ∉ dealt.flatMap (·.toHeard.questions)) :
    batchTrust (dealt.flatMap (·.toHeard.questions) ++ dealt.flatMap Dealt.invocations) =
      (dealt.flatMap (·.toHeard.questions)).filterMap Act.trusted? := by
  have hrefuses : (dealt.flatMap (·.toHeard.questions) ++
      dealt.flatMap Dealt.invocations).any Act.refuses = false := by
    refine List.any_eq_false.mpr fun act hact hrefused => ?_
    rcases List.mem_append.mp hact with hact | hact
    · obtain ⟨use, description, rfl⟩ := Act.eq_of_refuses hrefused
      exact hno use description hact
    · obtain ⟨d, -, hact⟩ := List.mem_flatMap.mp hact
      rw [(Dealt.trusted?_of_invocations hact).2] at hrefused
      cases hrefused
  have hquiet : (dealt.flatMap Dealt.invocations).filterMap Act.trusted? = [] := by
    refine List.filterMap_eq_nil_iff.mpr fun act hact => ?_
    obtain ⟨d, -, hact⟩ := List.mem_flatMap.mp hact
    exact (Dealt.trusted?_of_invocations hact).1
  rw [batchTrust, hrefuses, List.filterMap_append, hquiet, List.append_nil]
  rfl

/-- What is ready goes by the name that the model used. -/
theorem names_of_candidates [Workbench τ π] {w : τ} {uses : List ToolUse} {dealt : List Dealt}
    (hcandidates : dealt.map (·.candidate) = uses.map (Candidate.ofUse w)) :
    ∀ h ∈ dealt.map (·.toHeard), ∀ tool, h.candidate.tool = .ok tool →
      tool.name = h.candidate.use.name := by
  intro h hh tool htool
  obtain ⟨d, hd, rfl⟩ := List.mem_map.mp hh
  have hcandidate : d.candidate ∈ uses.map (Candidate.ofUse w) :=
    hcandidates ▸ List.mem_map_of_mem hd
  obtain ⟨use, -, hofUse⟩ := List.mem_map.mp hcandidate
  rw [← hofUse] at htool ⊢
  exact Manager.name_of_resolve (Candidate.ofUse_eq_ok htool).1

/-- A hearing that comes to something trusts what the answers gave trust to. -/
theorem Hearing.kept_eq {p : Permissions} {describe : Tool → String} {trusted kept : List String}
    {heard : List Heard} (hhearing : Hearing p describe trusted heard (some kept))
    (hnames : ∀ h ∈ heard, ∀ tool, h.candidate.tool = .ok tool →
      tool.name = h.candidate.use.name) :
    kept = trusted ++ (heard.flatMap Heard.questions).filterMap Act.trusted? := by
  generalize hending : some kept = ending at hhearing
  induction hhearing with
  | done =>
      cases hending
      exact (List.append_nil _).symm
  | failed _ _ ih => exact ih (List.forall_mem_cons.mp hnames).2 hending
  | exempt _ _ _ ih => exact ih (List.forall_mem_cons.mp hnames).2 hending
  | yes _ _ ih => exact ih (List.forall_mem_cons.mp hnames).2 hending
  | trust htool _ ih =>
      obtain ⟨hname, hrest⟩ := List.forall_mem_cons.mp hnames
      rw [ih hrest hending, hname _ htool, List.append_assoc]
      rfl
  | no _ => cases hending

namespace Session

/-- **A batch** changes the permissions by what its answers give trust to. -/
theorem permissions_runBatch [Workbench τ π] [Approver α] (s : Session τ μ α)
    (uses : List ToolUse) :
    (s.runBatch uses).2.permissions =
      (batchTrust ((s.runBatch uses).2.acts.drop s.acts.length)).foldl .trust s.permissions := by
  obtain ⟨dealt, hrun⟩ := s.runBatch_spec uses
  cases hresult : s.runBatch uses with
  | mk ran after =>
      rw [hresult] at hrun
      cases hrun with
      | @denied heard approver hcandidates hhearing =>
          obtain ⟨earlier, use, description, hquestions, -⟩ := hhearing.questions_of_none
          have hno : (earlier ++ [Act.asked use description .no]).any Act.refuses = true := by
            simp [Act.refuses]
          -- The permissions are untouched, and the last question was a no.
          dsimp only
          rw [List.drop_left, hquestions, batchTrust, if_pos hno]
          rfl
      | @completed _ trusted answers workbench approver hcandidates hhearing hrunning =>
          -- No answer was a no, and what ran is no answer; so the answers that gave trust count.
          have hkept := hhearing.kept_eq (names_of_candidates hcandidates)
          have hno := hhearing.no_notMem_of_some
          rw [List.flatMap_map] at hkept hno
          dsimp only
          rw [List.drop_left, batchTrust_of_dealt hno, hkept]
          rfl

/-! ## Turns -/

/-- From one session to another the answers on the way give trust to these tools, and the
permissions change by that. If anything is done on the way, a request comes first. -/
def Entrusts (s s' : Session τ μ α) (tools : List String) : Prop :=
  ∃ log, s'.acts = s.acts ++ log ∧ (∀ first ∈ log.head?, ∃ request, first = .sent request) ∧
    trustGiven log = tools ∧ s'.permissions = tools.foldl .trust s.permissions

theorem Entrusts.of_silent {s s' : Session τ μ α} (hacts : s'.acts = s.acts)
    (hpermissions : s'.permissions = s.permissions) : Entrusts s s' [] :=
  ⟨[], by rw [hacts, List.append_nil], by simp, trustGiven_nil, hpermissions⟩

/-- A request and the texts that are shown of its response give no trust. -/
theorem Entrusts.of_sent {s s' : Session τ μ α} {request : ChatRequest} {texts : List String}
    (hacts : s'.acts = s.acts ++ .sent request :: texts.map .said)
    (hpermissions : s'.permissions = s.permissions) : Entrusts s s' [] := by
  have hlog : trustGiven (.sent request :: (texts.map .said ++ [] ++ [])) = [] ++ trustGiven [] :=
    trustGiven_round (by simp) (by simp)
  rw [List.append_nil, List.append_nil, trustGiven_nil] at hlog
  exact ⟨_, hacts, fun first hfirst => ⟨request, (Option.some.inj hfirst).symm⟩, hlog, hpermissions⟩

/-- An answer that is put into the history gives no trust. -/
theorem Entrusts.answer {s s' after : Session τ μ α} {message : AssistantMessage}
    {tools : List String} (h : Entrusts s s' tools) (hanswer : s'.answer message = .ok after) :
    Entrusts s after tools := by
  obtain ⟨_, -, rfl⟩ := answer_eq_ok hanswer
  exact h

section Converse

variable [ChatModel μ] {s after : Session τ μ α}

theorem entrusts_converse {result : Except Error Response} (h : s.converse = (result, after)) :
    Entrusts s after [] := by
  rcases converse_cases h with ⟨-, rfl⟩ | ⟨_, -, _, _, rfl⟩
  · exact .of_silent rfl rfl
  · exact .of_sent rfl rfl

/-- The ending of a turn gives no trust. -/
theorem Ends.entrusts {t : Turn} {result : Except Error Outcome} (h : Ends t s result after) :
    Entrusts s after [] := by
  cases h with
  | failed hconverse => exact entrusts_converse hconverse
  | answered hconverse _ hanswer => exact (entrusts_converse hconverse).answer hanswer
  | limited hconverse _ hanswer _ hclose =>
      have hasked := (entrusts_converse hconverse).answer hanswer
      obtain ⟨_, -, rfl⟩ := answer_eq_ok hclose
      exact hasked

end Converse

variable [Workbench τ π] [ChatModel μ] [Approver α]

/-- **Each round** gives the trust of its batch, ahead of what comes after it. -/
theorem Rounds.entrusts {t t' : Turn} {s s' after : Session τ μ α} {rounds : List (Round τ μ α)}
    {tools : List String} (h : Rounds t s rounds t' s') (hlast : Entrusts s' after tools) :
    Entrusts s after ((rounds.flatMap fun round => batchTrust round.log) ++ tools) := by
  induction h with
  | none => exact hlast
  | @round t s r received batch rounds t' s' hconverse _ hanswer _ _ ih =>
      obtain ⟨done, hdone, htools⟩ := notes_runBatch batch r.toolUses
      have hbatch := permissions_runBatch batch r.toolUses
      have hlog : Round.log (⟨s, r, batch⟩ : Round τ μ α) = done := by
        rw [Round.log, hdone, List.drop_left]
      rw [hdone, List.drop_left] at hbatch
      obtain ⟨later, hacts, hfirst, htrust, hpermissions⟩ := ih hlast
      rw [hdone] at hacts
      rw [hbatch] at hpermissions
      rcases converse_cases hconverse with ⟨⟨_, herror⟩, -⟩ | ⟨messages, -, model, texts, hsent⟩
      · cases herror
      · obtain ⟨_, -, rfl⟩ := answer_eq_ok hanswer
        rw [hsent] at hacts hpermissions
        refine ⟨.sent (s.request messages s.conversation.tools) ::
          (texts.map .said ++ done ++ later), ?_, ?_, ?_, ?_⟩
        · rw [hacts]
          simp
        · exact fun first hfirst => ⟨_, (Option.some.inj hfirst).symm⟩
        · rw [trustGiven_round htools hfirst, htrust, List.flatMap_cons, hlog, List.append_assoc]
        · rw [List.flatMap_cons, hlog, List.append_assoc, List.foldl_append]
          exact hpermissions

/-- After some rounds of a turn, their batches have changed the permissions. -/
theorem Rounds.permissions_eq {t t' : Turn} {s s' : Session τ μ α} {rounds : List (Round τ μ α)}
    (h : Rounds t s rounds t' s') :
    s'.permissions = (rounds.flatMap fun round => batchTrust round.log).foldl .trust
      s.permissions := by
  obtain ⟨_, -, -, -, hpermissions⟩ := h.entrusts (.of_silent rfl rfl)
  rwa [List.append_nil] at hpermissions

/-- The tools that the answers in a turn give trust to. -/
def turnTrust (s : Session τ μ α) (input : String) : List String :=
  trustGiven ((s.process input).2.acts.drop s.acts.length)

/-- **A turn changes the permissions by the answers in it**, whatever it comes to. What the answers
give trust to is what they give in the batches of the rounds. -/
theorem turn_entrusts (s : Session τ μ α) (input : String) :
    ∃ rounds t' s', Rounds s.freshTurn (s.say input) rounds t' s' ∧
      Ends t' s' (s.process input).1 (s.process input).2 ∧
      s.turnTrust input = (rounds.flatMap fun round => batchTrust round.log) ∧
      (s.process input).2.permissions = (s.turnTrust input).foldl .trust s.permissions := by
  obtain ⟨rounds, t', s', hrounds, hends⟩ := exists_rounds s.freshTurn (s.say input)
  obtain ⟨log, hacts, -, htrust, hpermissions⟩ := hrounds.entrusts hends.entrusts
  rw [← process_eq] at hends hacts hpermissions
  have hlog : (s.process input).2.acts = s.acts ++ log := hacts
  have hturn : s.turnTrust input = rounds.flatMap fun round => batchTrust round.log := by
    rw [turnTrust, hlog, List.drop_left, htrust, List.append_nil]
  rw [List.append_nil, ← hturn] at hpermissions
  exact ⟨rounds, t', s', hrounds, hends, hturn, hpermissions⟩

theorem permissions_process (s : Session τ μ α) (input : String) :
    (s.process input).2.permissions = (s.turnTrust input).foldl .trust s.permissions := by
  obtain ⟨_, _, _, -, -, -, hpermissions⟩ := s.turn_entrusts input
  exact hpermissions

/-! ## Commands -/

omit [Workbench τ π] [Approver α] in
theorem permissions_compact (s : Session τ μ α) : s.compact.2.permissions = s.permissions := by
  unfold compact
  split
  · rfl
  · dsimp only
    split
    · rfl
    · split <;> rfl

/-- The changes of trust that a command about tools makes. Trust is given only to tools on offer. -/
def toolsChanges (s : Session τ μ α) : ToolsCommand → List TrustChange
  | .trust name => if s.toolSpecs.any (·.name == name) then [.trust name] else []
  | .untrust name => [.untrust name]
  | .trustAll => [.trustEvery]
  | .reset => [.reset]
  | .list | .incomplete _ | .unknown _ => []

omit [Workbench τ π] [ChatModel μ] [Approver α] in
/-- A command about tools changes the permissions at most. -/
theorem runToolsCommand_eq (s : Session τ μ α) (c : ToolsCommand) :
    (s.runToolsCommand c).2 =
      { s with permissions := s.permissions.changeAll (s.toolsChanges c) } := by
  cases c with
  | trust name =>
      rw [runToolsCommand, toolsChanges]
      split <;> rfl
  | _ => rfl

/-- The changes of trust that a line of the user makes. -/
def lineChanges (s : Session τ μ α) (line : String) : List TrustChange :=
  match Command.ofLine? line with
  | some (.tools c) => s.toolsChanges c
  | _ => []

omit [Workbench τ π] [Approver α] in
theorem permissions_handleLine (s : Session τ μ α) (line : String) :
    (s.handleLine line).2.permissions = s.permissions.changeAll (s.lineChanges line) := by
  rw [handleLine, lineChanges]
  cases Command.ofLine? line with
  | none => rfl
  | some c =>
      cases c with
      | tools c => exact congrArg permissions (s.runToolsCommand_eq c)
      | compact =>
          have hcompact := s.permissions_compact
          dsimp only [runCommand]
          cases hresult : s.compact with
          | mk result after =>
              rw [hresult] at hcompact
              rcases result with e | _ | summary <;> exact hcompact
      | _ => rfl

end Session

/-! ## The life of a session -/

/-- What can happen to a session. -/
inductive Incident (τ μ α : Type)
  | call (c : Call)
  /-- A line is handled that the user typed. -/
  | line (text : String)
  /-- Something is done to the conversation. -/
  | edit (op : Operation)
  /-- The workbench, the model and the approver have moved on, or are replaced. -/
  | surroundings (workbench : τ) (model : μ) (approver : α)

/-- What a session is started with. -/
structure Opening (τ μ α : Type) where
  config : Config
  conversationId : String
  workbench : τ
  model : μ
  approver : α

namespace Session

variable [Workbench τ π] [ChatModel μ] [Approver α]

/-- The session after an incident. -/
def undergo (s : Session τ μ α) : Incident τ μ α → Session τ μ α
  | .call c => s.perform c
  | .line text => (s.handleLine text).2
  | .edit op => { s with conversation := s.conversation.apply op }
  | .surroundings workbench model approver => { s with workbench, model, approver }

/-- The session after several incidents. -/
def live (s : Session τ μ α) (past : List (Incident τ μ α)) : Session τ μ α := past.foldl undergo s

/-- The changes of trust that the user makes in an incident: by answers in a turn, or by a line. -/
def incidentChanges (s : Session τ μ α) : Incident τ μ α → List TrustChange
  | .call (.process input) => (s.turnTrust input).map .trust
  | .line text => s.lineChanges text
  | .call .compact | .call .clear | .edit _ | .surroundings _ _ _ => []

/-- The changes of trust that the user makes in several incidents. -/
def changesOf : Session τ μ α → List (Incident τ μ α) → List TrustChange
  | _, [] => []
  | s, incident :: later => s.incidentChanges incident ++ (s.undergo incident).changesOf later

/-- **What happens to a session** changes its permissions only as its user says. -/
theorem permissions_undergo (s : Session τ μ α) (incident : Incident τ μ α) :
    (s.undergo incident).permissions = s.permissions.changeAll (s.incidentChanges incident) := by
  cases incident with
  | call c =>
      cases c with
      | process input =>
          rw [incidentChanges, Permissions.changeAll_map_trust]
          exact s.permissions_process input
      | compact => exact s.permissions_compact
      | clear => rfl
  | line text =>
      rw [undergo, incidentChanges, permissions_handleLine]
  | edit op => rfl
  | surroundings workbench model approver => rfl

theorem permissions_live (s : Session τ μ α) (past : List (Incident τ μ α)) :
    (s.live past).permissions = s.permissions.changeAll (s.changesOf past) := by
  induction past generalizing s with
  | nil => rfl
  | cons incident later ih =>
      rw [changesOf, Permissions.changeAll_append, ← permissions_undergo]
      exact ih (s.undergo incident)

end Session

namespace Opening

variable [Workbench τ π] [ChatModel μ] [Approver α]

/-- The session as it starts. -/
def session (o : Opening τ μ α) : Session τ μ α :=
  .start o.config o.conversationId o.workbench o.model o.approver

/-- All changes of trust from the start on: those of the configuration, and what the user changed
later. -/
def changes (o : Opening τ μ α) (past : List (Incident τ μ α)) : List TrustChange :=
  (if o.config.tools.trustAll then [.trustEvery] else []) ++ o.config.tools.trusted.map .trust ++
    o.session.changesOf past

theorem permissions_live (o : Opening τ μ α) (past : List (Incident τ μ α)) :
    (o.session.live past).permissions = Permissions.none.changeAll (o.changes past) := by
  rw [Session.permissions_live, changes, Permissions.changeAll_append,
    ← Permissions.ofList_eq_changeAll]
  rfl

/-- **Permissions follow the user.** Whatever has happened to a session, a tool is trusted exactly
if the changes that its user made leave it trusted: in the configuration, by commands, and by
answers in batches that went through. That holds in the middle of a turn as well, with the batches
of the rounds so far. Nothing else changes it: neither compaction nor forgetting what was said, and
a turn only by its batches, whatever the model says and however the turn ends. -/
theorem isTrusted_iff (o : Opening τ μ α) (past : List (Incident τ μ α)) :
    (∀ tool, (o.session.live past).permissions.isTrusted tool = true ↔
      TrustChange.Trusts (o.changes past) tool) ∧
    (∀ input rounds t' s', Session.Rounds (o.session.live past).freshTurn
        ((o.session.live past).say input) rounds t' s' →
      ∀ tool, s'.permissions.isTrusted tool = true ↔ TrustChange.Trusts
        (o.changes past ++ (rounds.flatMap fun round => batchTrust round.log).map .trust) tool) ∧
    ∀ s : Session τ μ α, s.compact.2.permissions = s.permissions ∧
      s.clear.permissions = s.permissions ∧
      ∀ input, ∃ rounds t' s', Session.Rounds s.freshTurn (s.say input) rounds t' s' ∧
        Session.Ends t' s' (s.process input).1 (s.process input).2 ∧
        s.turnTrust input = (rounds.flatMap fun round => batchTrust round.log) ∧
        (s.process input).2.permissions = (s.turnTrust input).foldl .trust s.permissions := by
  refine ⟨fun tool => ?_, fun input rounds t' s' hrounds tool => ?_,
    fun s => ⟨s.permissions_compact, rfl, s.turn_entrusts⟩⟩
  · rw [permissions_live, Permissions.isTrusted_changeAll]
  · have hnow : ((o.session.live past).say input).permissions =
        Permissions.none.changeAll (o.changes past) := o.permissions_live past
    rw [hrounds.permissions_eq, hnow, ← Permissions.changeAll_map_trust,
      ← Permissions.changeAll_append, Permissions.isTrusted_changeAll]

end Opening

end ToolAgent
