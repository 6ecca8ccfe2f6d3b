import ToolAgent.Proofs.Conversation.Pairing

/-!
# Operations in any order

A conversation may be worked on by any operations in any order, with one condition: results are
staged only where nothing is pending, and results and refusals are for the last tool uses
(`Permits`).

* `Answering` — what should hold throughout: results answer the tool uses right before them.
* `answering_iff` — it does, unless a summary takes the place of the history while results are
  pending. These stay behind without their calls, as `orphaned_by_compaction` shows.

What each operation keeps is `Coherent`, which says the same of messages without results as well:
they come only where no results are awaited.
-/

namespace ToolAgent

/-- What can be done to a conversation. -/
inductive Operation
  | say (text : String)
  | addResults (results : List ToolResult)
  | abandon (uses : List ToolUse) (text : Option String)
  | answer (message : AssistantMessage)
  | setSystemPrompt (text : String)
  | setSummary (text : String)
  | compact (text : String)
  | clear (keepSummary : Bool)
  | addContextFile (name content : String)
  | clearContextFiles
  | setTools (tools : List ToolSpec)
deriving DecidableEq

/-- Whether an operation puts a summary in the place of the history. -/
def Operation.compacts : Operation → Bool
  | .compact _ => true
  | _ => false

namespace Conversation

/-- The conversation after an operation. An answer that nothing waits for changes nothing. -/
def apply (c : Conversation) : Operation → Conversation
  | .say text => c.say text
  | .addResults results => c.addResults results
  | .abandon uses text => c.abandon uses text
  | .answer message => match c.answer message with
    | .ok answered => answered
    | .error _ => c
  | .setSystemPrompt text => c.setSystemPrompt text
  | .setSummary text => c.setSummary text
  | .compact text => c.compact text
  | .clear keepSummary => c.clear keepSummary
  | .addContextFile name content => c.addContextFile name content
  | .clearContextFiles => c.clearContextFiles
  | .setTools tools => c.setTools tools

/-- What an operation asks of the conversation: results come where nothing is pending, and results
and refusals are for the last tool uses. -/
def Permits (c : Conversation) : Operation → Prop
  | .addResults results =>
    c.pending = none ∧ results.map (·.useId) = c.lastUses.map (·.id)
  | .abandon uses _ => uses.map (·.id) = c.lastUses.map (·.id)
  | _ => True

instance (c : Conversation) : DecidablePred c.Permits := fun op => by
  unfold Permits
  split <;> infer_instance

/-- The operations, each with the conversation that it finds. -/
def steps (c : Conversation) : List Operation → List (Conversation × Operation)
  | [] => []
  | op :: rest => (c, op) :: (c.apply op).steps rest

/-- The conversation at the beginning and after each operation. -/
def states (c : Conversation) (ops : List Operation) : List Conversation :=
  c :: (c.steps ops).map fun (found, op) => found.apply op

theorem states_cons (c : Conversation) (op : Operation) (rest : List Operation) :
    c.states (op :: rest) = c :: (c.apply op).states rest := rfl

/-! ## What operations keep -/

/-- The oldest message of the user carries no tool results, and every one with results, in the
history or pending, answers exactly the tool uses of the assistant's message before it. -/
structure Answering (c : Conversation) : Prop where
  opening : ∀ e ∈ c.history.head?, e.user.toolResults = []
  answers : c.history.IsChain fun e later =>
    later.user.toolResults ≠ [] → later.user.answered = e.assistant.asked
  pending : ∀ u ∈ c.pending, u.toolResults ≠ [] → u.answered = awaited c.history

/-- Every message of the user, in the history or pending, answers the tool uses before it, if there
are any. -/
structure Coherent (c : Conversation) : Prop where
  paired : Paired c.history
  pending : ∀ u ∈ c.pending, u.answered = awaited c.history

theorem Coherent.answering {c : Conversation} (h : c.Coherent) : c.Answering where
  opening := h.paired.opening
  answers := h.paired.answers.imp fun _ _ hanswers _ => hanswers
  pending u hu _ := h.pending u hu

theorem coherent_start (id : String) (bound : Nat) (tools : List ToolSpec) :
    (start id bound tools).Coherent := ⟨.nil, by simp [start]⟩

theorem Ready.coherent {c : Conversation} (h : c.Ready) : c.Coherent where
  paired := h.paired
  pending := by
    obtain ⟨u, hu, hids⟩ := h.answers
    intro pending hpending
    obtain rfl : u = pending := Option.some.inj (hu.symm.trans hpending)
    exact hids

theorem Coherent.ready {c : Conversation} {u : UserMessage} (h : c.Coherent)
    (hu : c.pending = some u) : c.Ready := ⟨h.paired, u, hu, h.pending u hu⟩

theorem Coherent.answer {c : Conversation} (h : c.Coherent) (message : AssistantMessage) :
    (c.apply (.answer message)).Coherent := by
  cases hpending : c.pending with
  | none =>
      have hsame : c.apply (.answer message) = c := by
        rw [apply, Conversation.answer, hpending]
      rw [hsame]
      exact h
  | some u =>
      obtain ⟨answered, hok, hpaired, -⟩ := (h.ready hpending).answer message
      rw [apply, hok]
      refine ⟨hpaired, ?_⟩
      rw [(ended_of_answer hok).1]
      simp

/-- Results that are still pending do not stand in the way of compaction, if there are none. -/
theorem Coherent.compact {c : Conversation} (text : String)
    (hnone : ∀ u ∈ c.pending, u.toolResults = []) : (c.compact text).Coherent where
  paired := .nil
  pending u hu := UserMessage.answered_eq_nil.mpr (hnone u hu)

/-- **Each operation keeps a conversation coherent**, compaction if no results are pending. -/
theorem Coherent.apply {c : Conversation} {op : Operation} (h : c.Coherent) (hop : c.Permits op)
    (hcompact : op.compacts = true → ∀ u ∈ c.pending, u.toolResults = []) :
    (c.apply op).Coherent := by
  cases op with
  | say text => exact (ready_say h.paired text).coherent
  | addResults results =>
      exact (ready_addResults h.paired (hop.2.trans c.awaited_eq.symm)).coherent
  | abandon uses text =>
      exact (ready_abandon h.paired (hop.trans c.awaited_eq.symm) text).coherent
  | answer message => exact h.answer message
  | compact text => exact .compact text (hcompact rfl)
  | clear keepSummary => exact ⟨.nil, by simp [Conversation.apply, clear]⟩
  | setSystemPrompt text => exact ⟨h.paired, h.pending⟩
  | setSummary text => exact ⟨h.paired, h.pending⟩
  | addContextFile name content => exact ⟨h.paired, h.pending⟩
  | clearContextFiles => exact ⟨h.paired, h.pending⟩
  | setTools tools => exact ⟨h.paired, h.pending⟩

/-- **All operations together keep a conversation coherent**, if no results are pending at any
compaction. -/
theorem Coherent.states {c : Conversation} {ops : List Operation} (h : c.Coherent)
    (hops : ∀ p ∈ c.steps ops, p.1.Permits p.2)
    (hcompact : ∀ p ∈ c.steps ops, p.2.compacts = true → ∀ u ∈ p.1.pending, u.toolResults = []) :
    ∀ now ∈ c.states ops, now.Coherent := by
  induction ops generalizing c with
  | nil =>
      intro now hnow
      exact List.mem_singleton.mp hnow ▸ h
  | cons op rest ih =>
      obtain ⟨hop, hrest⟩ := List.forall_mem_cons.mp hops
      obtain ⟨hfirst, hlater⟩ := List.forall_mem_cons.mp hcompact
      rw [states_cons]
      exact List.forall_mem_cons.mpr ⟨h, ih (h.apply hop hfirst) hrest hlater⟩

/-- Results that are pending at a compaction have lost their calls after it. -/
theorem Answering.toolResults_of_compacts {c : Conversation} {op : Operation}
    (h : (c.apply op).Answering) (hop : op.compacts = true) {u : UserMessage}
    (hu : u ∈ c.pending) : u.toolResults = [] := by
  cases op with
  | compact text =>
      by_contra hne
      exact hne (UserMessage.answered_eq_nil.mp (h.pending u hu hne))
  | _ => cases hop

/-- **When results answer calls throughout.** Whatever is done to a new conversation, as long as it
is permitted: results answer the tool uses before them at all times exactly if no results are
pending whenever a summary takes the place of the history. -/
theorem answering_iff (id : String) (bound : Nat) (tools : List ToolSpec) {ops : List Operation}
    (hops : ∀ p ∈ (start id bound tools).steps ops, p.1.Permits p.2) :
    (∀ now ∈ (start id bound tools).states ops, now.Answering) ↔
      ∀ p ∈ (start id bound tools).steps ops, p.2.compacts = true →
        ∀ u ∈ p.1.pending, u.toolResults = [] := by
  constructor
  · intro h p hp hcompact u hu
    have hafter : (p.1.apply p.2).Answering := h _ (List.mem_cons_of_mem _ (List.mem_map_of_mem hp))
    exact hafter.toolResults_of_compacts hcompact hu
  · intro h now hnow
    exact ((coherent_start id bound tools).states hops h now hnow).answering

/-- A round of tools. -/
def toolRound : List Operation :=
  [.say "read it", .answer (.toolRequest none "" [⟨"1", "fs_read", .null⟩]),
    .addResults [⟨"1", [.text "words"], .success⟩]]

/-- Two rounds where one exchange is kept, with a compaction once the first results have got an
answer. -/
def roundTwice : List Operation :=
  toolRound ++ .answer (.response none "read") :: .compact "all read" :: toolRound

theorem answering_of_roundTwice :
    (∀ p ∈ (start "1" 1 []).steps roundTwice, p.1.Permits p.2) ∧
      (∀ p ∈ (start "1" 1 []).steps roundTwice, p.2.compacts = true →
        ∀ u ∈ p.1.pending, u.toolResults = []) ∧
      ∀ now ∈ (start "1" 1 []).states roundTwice, now.Answering := by
  have hops : ∀ p ∈ (start "1" 1 []).steps roundTwice, p.1.Permits p.2 := by decide +kernel
  have hcompact : ∀ p ∈ (start "1" 1 []).steps roundTwice, p.2.compacts = true →
      ∀ u ∈ p.1.pending, u.toolResults = [] := by decide +kernel
  exact ⟨hops, hcompact, (answering_iff "1" 1 [] hops).mpr hcompact⟩

/-- Compaction before the results of a round have got an answer. -/
def compactedRound : List Operation :=
  toolRound ++ [.compact "reading", .answer (.response none "read")]

/-- The results stay pending without their calls, and the next answer makes them the oldest message
of the history. -/
theorem orphaned_by_compaction :
    (∀ p ∈ (start "1" 10 []).steps compactedRound, p.1.Permits p.2) ∧
      ∃ now ∈ (start "1" 10 []).states compactedRound,
        now.history.head?.map (·.user) = some (.results [⟨"1", [.text "words"], .success⟩]) ∧
          ¬ now.Answering := by
  refine ⟨by decide +kernel, _, List.getLast_mem (List.cons_ne_nil _ _), by decide +kernel, ?_⟩
  intro h
  have hopening : ∀ e ∈ (((start "1" 10 []).states compactedRound).getLast
      (List.cons_ne_nil _ _)).history.head?, e.user.toolResults = [] := h.opening
  revert hopening
  decide +kernel

end Conversation

end ToolAgent
