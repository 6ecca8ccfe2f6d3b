import Mathlib.Algebra.Ring.Nat
import Mathlib.Data.List.Basic
import ToolAgent.Proofs.Session.Requests
import ToolAgent.Proofs.Text.Join

/-!
# What the outcome of a turn says

The outcome of a turn is put together while the turn goes on: texts and tokens at each response,
executions and the count of rounds at each batch. `process_accounts` says that it is right about the
turn as a whole, whichever way the turn ends, and that a turn ends within its limit of rounds.

* `TokenUsage.Fit.isSum` — tokens that are added up wrap around at 32 bits, so each count is the sum
  of that count over the responses as long as that sum fits.
* `Turn.Gathered` — what a turn knows after some responses. Each response keeps it
  (`Gathered.receive`), and so do the rounds of a turn (`Rounds.gathered`).
* `executions_runBatch` — the executions of a batch are read off its invocations.
* `Accounts` — what the outcome says of the responses of a turn and of what was done in it.
-/

namespace ToolAgent

variable {τ μ α π : Type}

/-! ## Tokens -/

namespace TokenUsage

/-- The tokens of several responses, added up one after the other. -/
def sum (usages : List TokenUsage) : TokenUsage := usages.foldl add zero

theorem sum_concat (usages : List TokenUsage) (u : TokenUsage) :
    sum (usages ++ [u]) = (sum usages).add u := List.foldl_concat _ _ _ _

/-- Each of the three sums of these tokens takes 32 bits at most. -/
structure Fit (usages : List TokenUsage) : Prop where
  prompt : (usages.map (·.prompt.toNat)).sum < 2 ^ 32
  completion : (usages.map (·.completion.toNat)).sum < 2 ^ 32
  total : (usages.map (·.total.toNat)).sum < 2 ^ 32

/-- Each count is the sum of this count over all of these tokens. -/
structure IsSum (u : TokenUsage) (usages : List TokenUsage) : Prop where
  prompt : u.prompt.toNat = (usages.map (·.prompt.toNat)).sum
  completion : u.completion.toNat = (usages.map (·.completion.toNat)).sum
  total : u.total.toNat = (usages.map (·.total.toNat)).sum

/-- A count that is added up wraps around at 32 bits. -/
theorem toNat_sum {count : TokenUsage → UInt32} (hzero : count zero = 0)
    (hadd : ∀ u v, count (add u v) = count u + count v) (usages : List TokenUsage) :
    (count (sum usages)).toNat = (usages.map fun u => (count u).toNat).sum % 2 ^ 32 := by
  induction usages using List.reverseRecOn with
  | nil =>
      rw [sum, List.foldl_nil, hzero]
      rfl
  | append_singleton usages u ih =>
      rw [sum_concat, hadd, UInt32.toNat_add, ih, List.map_append, List.sum_append, Nat.mod_add_mod,
        List.map_singleton, List.sum_singleton]

/-- **Tokens are added up count by count**, as long as the sums fit. -/
theorem Fit.isSum {usages : List TokenUsage} (h : Fit usages) : (sum usages).IsSum usages where
  prompt := (toNat_sum rfl (fun _ _ => rfl) usages).trans (Nat.mod_eq_of_lt h.prompt)
  completion := (toNat_sum rfl (fun _ _ => rfl) usages).trans (Nat.mod_eq_of_lt h.completion)
  total := (toNat_sum rfl (fun _ _ => rfl) usages).trans (Nat.mod_eq_of_lt h.total)

/-- The total is added up by itself, whatever the two other counts come to. -/
example : sum [⟨1, 2, 9⟩, ⟨3, 4, 7⟩] = ⟨4, 6, 16⟩ := by decide

end TokenUsage

/-! ## What a turn gathers -/

/-- The texts of responses, those that are not empty. -/
def spoken (responses : List Response) : List String :=
  (responses.map (·.text)).filter (· ≠ "")

/-- The tokens that responses reported. -/
def reported (responses : List Response) : List TokenUsage := responses.filterMap (·.usage)

namespace Turn

/-- What a turn knows of the texts and tokens of these responses. -/
structure Gathered (t : Turn) (responses : List Response) : Prop where
  text : t.text = String.intercalate "\n" (spoken responses)
  usage : t.usage =
    if reported responses = [] then none else some (.sum (reported responses))

theorem gathered_start (limit : Nat) : (start limit).Gathered [] := ⟨rfl, rfl⟩

theorem text_pushText {t : Turn} {texts : List String} (h : t.text = String.intercalate "\n" texts)
    (htexts : ∀ text ∈ texts, text ≠ "") (text : String) :
    (t.pushText text).text = String.intercalate "\n" (texts ++ [text].filter (· ≠ "")) := by
  unfold pushText
  split
  · next hempty => rw [hempty, h]; simp
  · next hne =>
      have hone : [text].filter (· ≠ "") = [text] := by simp [hne]
      rw [hone]
      split
      · next hnone =>
          have hnil : texts = [] := by
            by_contra hne'
            exact Text.intercalate_ne_empty "\n" hne' htexts (h ▸ hnone)
          rw [hnil, List.nil_append, String.intercalate_singleton]
      · next hsome =>
          have hcons : texts ≠ [] := by
            rintro rfl
            exact hsome h
          rw [Text.intercalate_concat "\n" text hcons, h]

/-- **A response more** is gathered. -/
theorem Gathered.receive {t : Turn} {responses : List Response} (h : t.Gathered responses)
    (r : Response) : (t.receive r).Gathered (responses ++ [r]) := by
  constructor
  · have hspoken : spoken (responses ++ [r]) = spoken responses ++ [r.text].filter (· ≠ "") := by
      rw [spoken, List.map_append, List.filter_append]
      rfl
    have htext : (t.recordUsage r.usage).text = String.intercalate "\n" (spoken responses) := by
      cases hu : r.usage <;> exact h.text
    rw [hspoken]
    exact text_pushText htext (fun text htext => by simpa using (List.mem_filter.mp htext).2) r.text
  · have husage : (t.receive r).usage = (t.recordUsage r.usage).usage := by
      unfold Turn.receive pushText
      grind
    rw [husage, reported, List.filterMap_append, ← reported]
    cases hu : r.usage with
    | none => simpa [recordUsage, hu] using h.usage
    | some u =>
        have hone : [r].filterMap (·.usage) = [u] := by simp [hu]
        rw [hone, if_neg (by simp), TokenUsage.sum_concat, recordUsage, h.usage]
        split
        · next hnone => rw [hnone]; rfl
        · rfl

theorem Gathered.completeRound {t : Turn} {responses : List Response} (h : t.Gathered responses)
    (ran : List Execution) : (t.completeRound ran).Gathered responses := by
  rw [completeRound_eq]
  exact ⟨h.text, h.usage⟩

end Turn

/-! ## Executions -/

/-- The record that is due for an act: for the run of a tool, whether the result that goes back to
the model is no failure. -/
def Act.execution? : Act → Option Execution
  | .invoked use tool outcome =>
    some ⟨tool.name, use.id, !(Answered.ofOutcome use tool outcome).result.isError⟩
  | _ => none

theorem Act.execution?_of_quiet {act : Act} (h : act.concernsTool = false) :
    act.execution? = none := by
  cases act with
  | invoked _ _ _ => cases h
  | _ => rfl

/-- Only what concerns tools is recorded. -/
theorem Act.filterMap_execution?_filter (log : List Act) :
    (log.filter Act.concernsTool).filterMap Act.execution? = log.filterMap Act.execution? := by
  rw [List.filterMap_filter]
  refine List.filterMap_congr fun act _ => ?_
  cases hact : act.concernsTool with
  | true => rfl
  | false => exact (Act.execution?_of_quiet hact).symm

/-- A question leaves no record. -/
theorem Heard.execution?_eq_none {h : Heard} {act : Act} (hact : act ∈ h.questions) :
    act.execution? = none := by
  unfold questions at hact
  split at hact
  · rw [List.mem_singleton.mp hact]; rfl
  · cases hact

theorem Answered.execution?_ofOutcome (use : ToolUse) (tool : Tool)
    (outcome : Except Error Output) :
    (ofOutcome use tool outcome).execution? = (Act.invoked use tool outcome).execution? := by
  cases outcome <;> rfl

/-- What became of a tool use is recorded as its run is. -/
theorem Dealt.execution?_answer (d : Dealt) :
    d.answer.execution?.toList = d.invocations.filterMap Act.execution? := by
  unfold answer invocations
  cases d.run with
  | some run => exact congrArg Option.toList (Answered.execution?_ofOutcome _ run.1 run.2)
  | none => cases d.candidate.tool <;> rfl

namespace Session

variable [Workbench τ π]

/-- What is done in a batch is questions and, after them, invocations. The batch gives the
executions of the latter and stages their results; there are none if it is denied. -/
theorem exists_invocations [Approver α] (s : Session τ μ α) (uses : List ToolUse) :
    ∃ (questions : List Act) (dealt : List Dealt),
      (s.runBatch uses).2.acts.drop s.acts.length =
        questions ++ dealt.flatMap Dealt.invocations ∧
      (∀ act ∈ questions, act.execution? = none) ∧
      (s.runBatch uses).1 = (dealt.map Dealt.answer).filterMap Answered.execution? ∧
      (dealt = [] ∨ (s.runBatch uses).2.conversation.pending =
        some (.results (dealt.map (·.answer.result)))) := by
  obtain ⟨dealt, hrun⟩ := runBatch_spec uses s
  cases hresult : s.runBatch uses with
  | mk ran after =>
      rw [hresult] at hrun
      cases hrun with
      | @denied heard _ _ _ =>
          refine ⟨heard.flatMap Heard.questions, [], ?_, ?_, rfl, .inl rfl⟩
          · rw [List.flatMap_nil, List.append_nil]
            exact List.drop_left
          · intro act hact
            obtain ⟨h, -, hact⟩ := List.mem_flatMap.mp hact
            exact h.execution?_eq_none hact
      | completed _ _ hrunning =>
          obtain rfl := hrunning.answers_eq
          refine ⟨_, dealt, List.drop_left, ?_, rfl, .inr ?_⟩
          · intro act hact
            obtain ⟨d, -, hact⟩ := List.mem_flatMap.mp hact
            exact d.toHeard.execution?_eq_none hact
          · show some (UserMessage.results ((dealt.map Dealt.answer).map (·.result))) = _
            rw [List.map_map]
            rfl

/-- **The executions of a batch are its invocations**, in order. -/
theorem executions_runBatch [Approver α] (s : Session τ μ α) (uses : List ToolUse) :
    (s.runBatch uses).1 =
      ((s.runBatch uses).2.acts.drop s.acts.length).filterMap Act.execution? := by
  obtain ⟨questions, dealt, hlog, hquestions, hran, -⟩ := s.exists_invocations uses
  rw [hran, hlog, List.filterMap_append, List.filterMap_eq_nil_iff.mpr hquestions,
    List.nil_append, List.filterMap_flatMap, List.filterMap_map, List.filterMap_eq_flatMap_toList]
  simp only [Function.comp_apply, Dealt.execution?_answer]

/-- The result of a tool that ran in a batch is among those that the batch stages. -/
theorem result_staged_of_invoked [Approver α] {s : Session τ μ α} {uses : List ToolUse}
    {use : ToolUse} {tool : Tool} {outcome : Except Error Output}
    (h : .invoked use tool outcome ∈ (s.runBatch uses).2.acts.drop s.acts.length) :
    ∃ results, (s.runBatch uses).2.conversation.pending = some (.results results) ∧
      (Answered.ofOutcome use tool outcome).result ∈ results := by
  obtain ⟨questions, dealt, hlog, hquestions, -, hstaged⟩ := s.exists_invocations uses
  rw [hlog] at h
  rcases List.mem_append.mp h with hact | hact
  · cases hquestions _ hact
  · obtain ⟨d, hd, hact⟩ := List.mem_flatMap.mp hact
    obtain ⟨_, _, hrun, heq⟩ := d.eq_of_mem_invocations hact
    obtain ⟨rfl, rfl, rfl⟩ := Act.invoked.inj heq
    refine ⟨_, hstaged.resolve_left (List.ne_nil_of_mem hd), ?_⟩
    have hanswer : d.answer = .ofOutcome d.candidate.use tool outcome := by
      rw [Dealt.answer, hrun]
    exact hanswer ▸ List.mem_map_of_mem hd

/-! ## Rounds and endings -/

variable [ChatModel μ] [Approver α]

/-- **What the rounds of a turn gather**: their texts and tokens. -/
theorem Rounds.gathered {t t' : Turn} {s s' : Session τ μ α} {rounds : List (Round τ μ α)}
    (h : Rounds t s rounds t' s') {responses : List Response} (ht : t.Gathered responses) :
    t'.Gathered (responses ++ rounds.map (·.response)) := by
  induction h generalizing responses with
  | none => rwa [List.map_nil, List.append_nil]
  | @round t s r received batch rounds t' s' _ _ _ _ _ ih =>
      have hrest := ih ((ht.receive r).completeRound _)
      rwa [List.append_assoc] at hrest

/-- **How the rounds of a turn are counted**: one by one, up to the limit. -/
theorem Rounds.counted {t t' : Turn} {s s' : Session τ μ α} {rounds : List (Round τ μ α)}
    (h : Rounds t s rounds t' s') (ht : t.round ≤ t.maxRounds) :
    t'.round = t.round + rounds.length ∧ t'.maxRounds = t.maxRounds ∧
      t'.round ≤ t'.maxRounds := by
  induction h with
  | none => exact ⟨rfl, rfl, ht⟩
  | @round t s r received batch rounds t' s' _ _ _ hcan _ ih =>
      obtain ⟨text, usage, hreceive⟩ := t.exists_receive_eq r
      rw [Turn.completeRound_eq, hreceive] at ih
      dsimp only at ih
      simp only [Turn.canRunTools, decide_eq_true_eq] at hcan
      obtain ⟨hcount, hsame, hle⟩ := ih hcan
      exact ⟨by rw [hcount, List.length_cons]; omega, hsame, hle⟩

/-- **What the rounds of a turn record**: the executions of their batches. -/
theorem Rounds.executions {t t' : Turn} {s s' : Session τ μ α} {rounds : List (Round τ μ α)}
    (h : Rounds t s rounds t' s') :
    t'.executions =
      t.executions ++ rounds.flatMap fun round => round.log.filterMap Act.execution? := by
  induction h with
  | none => rw [List.flatMap_nil, List.append_nil]
  | @round t s r received batch rounds t' s' _ _ _ _ _ ih =>
      obtain ⟨text, usage, hreceive⟩ := t.exists_receive_eq r
      rw [ih, Turn.completeRound_eq, hreceive, executions_runBatch, List.append_assoc,
        List.flatMap_cons]
      rfl

omit [Approver α] in
/-- The ending of a turn records nothing. -/
theorem Ends.executions {t : Turn} {s s' : Session τ μ α} {result : Except Error Outcome}
    (h : Ends t s result s') :
    ∃ log, s'.acts = s.acts ++ log ∧ log.filterMap Act.execution? = [] := by
  obtain ⟨log, hacts, hquiet⟩ := h.quiet
  exact ⟨log, hacts, List.filterMap_eq_nil_iff.mpr fun act hact =>
    Act.execution?_of_quiet (hquiet act hact)⟩

omit [Workbench τ π] [Approver α] in
/-- **How a turn ends well**: with a last response, which asks for tools only at the limit; and with
a conversation in which nothing is pending or asked. -/
theorem Ends.ok {t : Turn} {s s' : Session τ μ α} {outcome : Outcome}
    (h : Ends t s (.ok outcome) s') :
    ∃ last received, s.converse = (.ok last, received) ∧
      outcome = (t.receive last).outcome (last.toolUses ≠ []) ∧
      (last.toolUses ≠ [] → t.canRunTools = false) ∧
      s'.conversation.pending = none ∧
      ∃ e, s'.conversation.history.getLast? = some e ∧ e.assistant.toolUses = [] := by
  cases h with
  | @answered last received _ hconverse huses hanswer =>
      obtain ⟨_, hok, rfl⟩ := answer_eq_ok hanswer
      obtain ⟨hpending, e, hlast, he⟩ := Conversation.ended_of_answer hok
      exact ⟨last, received, hconverse, by simp [huses], fun h => absurd huses h, hpending, e,
        hlast, he ▸ rfl⟩
  | @limited last received _ _ hconverse huses _ hcan hclose =>
      obtain ⟨_, hok, rfl⟩ := answer_eq_ok ((closeAtLimit_eq _ _ _).symm.trans hclose)
      obtain ⟨hpending, e, hlast, he⟩ := Conversation.ended_of_answer hok
      exact ⟨last, received, hconverse, by simp [huses], fun _ => hcan, hpending, e, hlast,
        he ▸ rfl⟩

/-! ## Whole turns -/

end Session

/-- An outcome that is right about a turn with these responses, in which this was done, under a
limit of rounds. -/
structure Accounts (limit : Nat) (responses : List Response) (log : List Act) (outcome : Outcome) :
    Prop where
  /-- Each response but the last one was followed by a round of tools. -/
  rounds : outcome.toolRounds + 1 = responses.length
  /-- The turn was stopped exactly if the last response still asked for tools. -/
  stopped : outcome.stoppedEarly = true ↔ ∃ last ∈ responses.getLast?, last.toolUses ≠ []
  limit : outcome.stoppedEarly = true → outcome.toolRounds = limit
  response : outcome.response = String.intercalate "\n" (spoken responses)
  /-- The executions are those of the tools that were invoked, in order. -/
  executed : outcome.toolsExecuted = log.filterMap Act.execution?
  /-- There are tokens unless no response reported any. -/
  unreported : outcome.usage = none ↔ reported responses = []
  /-- The tokens are those that the responses reported together, as long as their sums fit. -/
  usage : TokenUsage.Fit (reported responses) →
    ∀ u ∈ outcome.usage, u.IsSum (reported responses)

namespace Session

variable [Workbench τ π] [ChatModel μ] [Approver α]

/-- A turn that knows of the responses before the last one, and that recorded what was done, sums
all of it up. -/
theorem accounts_outcome {t : Turn} {responses : List Response} {log : List Act} {last : Response}
    (hround : t.round = responses.length) (hgathered : t.Gathered responses)
    (hexecutions : t.executions = log.filterMap Act.execution?)
    (hstopped : last.toolUses ≠ [] → t.round = t.maxRounds) :
    Accounts t.maxRounds (responses ++ [last]) log
      ((t.receive last).outcome (last.toolUses ≠ [])) := by
  obtain ⟨htext, husage⟩ := hgathered.receive last
  obtain ⟨text, usage, hreceive⟩ := t.exists_receive_eq last
  rw [hreceive] at htext husage ⊢
  refine ⟨?_, ?_, ?_, htext, hexecutions, ?_, ?_⟩
  · show t.round + 1 = (responses ++ [last]).length
    rw [hround, List.length_append, List.length_singleton]
  · simp [Turn.outcome]
  · intro hearly
    exact hstopped (by simpa [Turn.outcome] using hearly)
  · change usage = _ at husage
    show usage = none ↔ _
    rw [husage]
    split <;> simp_all
  · intro hfit u hu
    have hsum : some u = if reported (responses ++ [last]) = [] then none
        else some (.sum (reported (responses ++ [last]))) := hu.symm.trans husage
    split at hsum
    · cases hsum
    · obtain rfl := Option.some.inj hsum
      exact hfit.isSum

/-- **A turn ends, and its outcome accounts for it.** A turn sends one request for each of its
rounds and one more, and has no more rounds than the limit. What a tool gave goes back to the model
by the message that its batch stages. If there is an outcome, it is right about the responses and
about what was done, and the conversation is left with nothing pending and no tool uses to
answer. -/
theorem process_accounts (s : Session τ μ α) (input : String) :
    ∃ rounds t' s', Rounds s.freshTurn (s.say input) rounds t' s' ∧
      Ends t' s' (s.process input).1 (s.process input).2 ∧
      (s.turnRequests input).length = rounds.length + 1 ∧
      rounds.length ≤ s.config.tools.maxRounds.toNat ∧
      (∀ round ∈ rounds, ∀ use tool outcome, .invoked use tool outcome ∈ round.log →
        ∃ results, (round.batch.runBatch round.response.toolUses).2.conversation.pending =
            some (.results results) ∧
          (Answered.ofOutcome use tool outcome).result ∈ results) ∧
      ∀ outcome, (s.process input).1 = .ok outcome →
        ∃ last received, s'.converse = (.ok last, received) ∧
          Accounts s.config.tools.maxRounds.toNat (rounds.map (·.response) ++ [last])
            ((s.process input).2.acts.drop s.acts.length) outcome ∧
          (s.process input).2.conversation.pending = none ∧
          ∃ e, (s.process input).2.conversation.history.getLast? = some e ∧
            e.assistant.toolUses = [] := by
  obtain ⟨rounds, t', s', hrounds, hends⟩ := exists_rounds s.freshTurn (s.say input)
  obtain ⟨hcount, hlimit, hle⟩ := hrounds.counted (Nat.zero_le _)
  have hround : t'.round = rounds.length := by rw [hcount]; exact Nat.zero_add _
  have hmax : t'.maxRounds = s.config.tools.maxRounds.toNat := hlimit
  refine ⟨rounds, t', s', hrounds, hends, length_turnRequests hrounds hends, by omega,
    fun _ _ _ _ _ => result_staged_of_invoked, ?_⟩
  intro outcome houtcome
  rw [process_eq] at houtcome
  rw [houtcome] at hends
  obtain ⟨last, received, hconverse, rfl, hstopped, hleft⟩ := hends.ok
  refine ⟨last, received, hconverse, ?_, hleft⟩
  rw [← hmax]
  refine accounts_outcome (by rw [hround, List.length_map])
    (hrounds.gathered (Turn.gathered_start _)) ?_ (fun huses => ?_)
  · -- All that is recorded was done in the rounds; the ending adds nothing to it.
    obtain ⟨log, hlog, htools⟩ := hrounds.acts
    obtain ⟨rest, hrest, hnone⟩ := hends.executions
    have hacts : (s.process input).2.acts = s.acts ++ (log ++ rest) := by
      rw [process_eq, hrest, hlog, List.append_assoc]
      rfl
    rw [hacts, List.drop_left, List.filterMap_append, hnone, List.append_nil,
      ← Act.filterMap_execution?_filter, htools, List.filterMap_flatMap, hrounds.executions]
    rfl
  · have hfull := hstopped huses
    simp only [Turn.canRunTools, decide_eq_false_iff_not] at hfull
    omega

end Session

end ToolAgent
