import Mathlib.Data.List.Chain
import Mathlib.Data.List.TakeWhile
import ToolAgent.Conversation.Basic

/-!
# Calls and their results

A tool result means nothing without the call that it answers, and a model rejects a call that was
never answered. This module says what it means that calls and results pair up, and that every
operation on a conversation keeps them so.

* `Paired` — a history in which each message of the user answers the message of the assistant
  before it. Pruning keeps it (`Paired.prune`), because only whole blocks go.
* `Conversation.Ready` — a paired history together with a pending message that answers the last
  tool uses. It is what holds between a message of the user and the assistant's answer: staging
  establishes it, an answer consumes it (`Ready.answer`).
* `Dialogue` — the same pairing for messages as they are sent, with strictly alternating roles.
  `Ready.sendable` takes it from the history to the request.
-/

namespace ToolAgent

/-! ## Paired histories -/

/-- A history in which results answer calls: the oldest message of the user carries no results, and
the results in every later one are for the tool uses of the assistant's message before it, in their
order. -/
structure Paired (history : List Exchange) : Prop where
  opening : ∀ e ∈ history.head?, e.user.toolResults = []
  answers : history.IsChain fun e later => later.user.answered = e.assistant.asked

theorem Paired.nil : Paired [] := ⟨by simp, .nil⟩

/-- The ids of the tool uses that wait for results after a history. -/
def awaited (history : List Exchange) : List String :=
  match history.getLast? with
  | some e => e.assistant.asked
  | none => []

@[simp] theorem awaited_concat (history : List Exchange) (e : Exchange) :
    awaited (history ++ [e]) = e.assistant.asked := by
  simp [awaited]

theorem UserMessage.answered_eq_nil {u : UserMessage} : u.answered = [] ↔ u.toolResults = [] := by
  simp [answered]

theorem UserMessage.toolResults_of_not_hasResults {u : UserMessage} (h : ¬ u.hasResults = true) :
    u.toolResults = [] := by
  simpa [hasResults] using h

/-- An exchange that answers what a paired history waits for extends it. -/
theorem Paired.concat {history : List Exchange} {e : Exchange} (h : Paired history)
    (he : e.user.answered = awaited history) : Paired (history ++ [e]) := by
  constructor
  · intro first hfirst
    cases history with
    | nil =>
        obtain rfl : e = first := by simpa using hfirst
        exact UserMessage.answered_eq_nil.mp he
    | cons oldest rest => exact h.opening first (by simpa using hfirst)
  · refine List.isChain_append.mpr ⟨h.answers, List.isChain_singleton e, ?_⟩
    intro last hlast first hfirst
    obtain rfl : e = first := by simpa using hfirst
    rw [he, awaited, Option.mem_def.mp hlast]

/-! ### Pruning -/

/-- Dropping a block leaves a proper end of the history that the user opens without results. -/
theorem dropBlock?_eq_some {history later : List Exchange}
    (h : Conversation.dropBlock? history = some later) :
    later <:+ history ∧ later ≠ [] ∧ ∀ e ∈ later.head?, e.user.toolResults = [] := by
  cases history with
  | nil => simp [Conversation.dropBlock?] at h
  | cons oldest rest =>
      simp only [Conversation.dropBlock?] at h
      split at h
      · cases h
      · next hne =>
          obtain rfl := Option.some.inj h
          refine ⟨(List.dropWhile_suffix _).trans (List.suffix_cons oldest rest), hne, ?_⟩
          intro e he
          refine UserMessage.toolResults_of_not_hasResults ?_
          have := List.head?_dropWhile_not (fun e : Exchange => e.user.hasResults) rest
          rw [Option.mem_def.mp he] at this
          simpa using this

/-- What pruning leaves is an end of the history, and not nothing; it is the history itself, or the
user opens it without results. -/
theorem prune_spec (bound : Nat) (history : List Exchange) :
    Conversation.prune bound history <:+ history ∧
      (history ≠ [] → Conversation.prune bound history ≠ []) ∧
      (Conversation.prune bound history = history ∨
        ∀ e ∈ (Conversation.prune bound history).head?, e.user.toolResults = []) := by
  fun_induction Conversation.prune bound history with
  | case1 history _ => exact ⟨List.suffix_refl _, id, .inl rfl⟩
  | case2 history _ _ => exact ⟨List.suffix_refl _, id, .inl rfl⟩
  | case3 history _ later hdrop ih =>
      obtain ⟨hsuffix, hlater, hopening⟩ := dropBlock?_eq_some hdrop
      obtain ⟨hpruned, hpne, hhead⟩ := ih
      refine ⟨hpruned.trans hsuffix, fun _ => hpne hlater, .inr ?_⟩
      rcases hhead with heq | hhead
      · rw [heq]; exact hopening
      · exact hhead

/-- **Pruning keeps a history paired.** An end of a history keeps the pairs within it; what needs
the blocks is that its first message carries no results whose calls are gone. -/
theorem Paired.prune {history : List Exchange} (h : Paired history) (bound : Nat) :
    Paired (Conversation.prune bound history) := by
  obtain ⟨hsuffix, -, hhead⟩ := prune_spec bound history
  refine ⟨?_, h.answers.suffix hsuffix⟩
  rcases hhead with heq | hhead
  · rw [heq]; exact h.opening
  · exact hhead

/-- Pruning keeps the newest exchange. -/
theorem getLast?_prune (bound : Nat) (history : List Exchange) :
    (Conversation.prune bound history).getLast? = history.getLast? := by
  obtain ⟨⟨front, hfront⟩, hpne, -⟩ := prune_spec bound history
  by_cases hne : history = []
  · subst hne
    obtain ⟨-, hpruned⟩ := List.append_eq_nil_iff.mp hfront
    rw [hpruned]
  · have hlast := List.getLast?_append_of_ne_nil front (hpne hne)
    rw [hfront] at hlast
    exact hlast.symm

/-- An end of the history whose exchanges all carry results, apart from its first, is within the
newest block; dropping a block leaves it. -/
theorem suffix_of_dropBlock? {history kept later : List Exchange} {e : Exchange}
    (hsuffix : e :: later <:+ history) (hlater : ∀ x ∈ later, x.user.hasResults = true)
    (h : Conversation.dropBlock? history = some kept) : e :: later <:+ kept := by
  have hnone : later.dropWhile (·.user.hasResults) = [] := List.dropWhile_eq_nil_iff.mpr hlater
  cases history with
  | nil => cases h
  | cons oldest rest =>
      simp only [Conversation.dropBlock?] at h
      split at h
      · cases h
      · next hne =>
          obtain rfl := Option.some.inj h
          rcases List.suffix_cons_iff.mp hsuffix with hall | ⟨front, rfl⟩
          · obtain ⟨-, rfl⟩ := List.cons.inj hall
            exact absurd hnone hne
          · rw [List.dropWhile_append] at hne ⊢
            split
            · next hfront =>
                -- The block before `e` goes as a whole, and the next one begins with `e`.
                rw [if_pos hfront, List.dropWhile_cons] at hne
                rw [List.dropWhile_cons]
                split
                · next he =>
                    rw [if_pos he] at hne
                    exact absurd hnone hne
                · exact List.suffix_refl _
            · exact List.suffix_append _ _

/-- **Pruning keeps what was said since a message**, if all messages of the user after that one
carry results. -/
theorem suffix_prune {bound : Nat} {history later : List Exchange} {e : Exchange}
    (hsuffix : e :: later <:+ history) (hlater : ∀ x ∈ later, x.user.hasResults = true) :
    e :: later <:+ Conversation.prune bound history := by
  fun_induction Conversation.prune bound history with
  | case1 history _ => exact hsuffix
  | case2 history _ _ => exact hsuffix
  | case3 history _ kept hdrop ih => exact ih (suffix_of_dropBlock? hsuffix hlater hdrop)

/-! ## Conversations -/

namespace Conversation

theorem awaited_eq (c : Conversation) : awaited c.history = c.lastUses.map (·.id) := by
  unfold awaited lastUses
  cases c.history.getLast? <;> rfl

/-- A conversation whose calls are all answered, the last ones by the pending message. -/
structure Ready (c : Conversation) : Prop where
  paired : Paired c.history
  answers : ∃ u, c.pending = some u ∧ u.answered = awaited c.history

/-- Whatever the user says answers the last tool uses: with cancellations, if there are any. -/
theorem ready_say {c : Conversation} (h : Paired c.history) (text : String) :
    (c.say text).Ready := by
  refine ⟨h, _, rfl, ?_⟩
  show _ = awaited c.history
  rw [awaited_eq]
  split
  · next hnone => rw [hnone]; rfl
  · simp [UserMessage.cancel, UserMessage.answered, UserMessage.toolResults, ToolResult.failure,
      Function.comp_def]

theorem ready_addResults {c : Conversation} (h : Paired c.history) {results : List ToolResult}
    (hids : results.map (·.useId) = awaited c.history) : (c.addResults results).Ready :=
  ⟨h, _, rfl, hids⟩

theorem ready_abandon {c : Conversation} (h : Paired c.history) {uses : List ToolUse}
    (hids : uses.map (·.id) = awaited c.history) (text : Option String) :
    (c.abandon uses text).Ready := by
  refine ⟨h, _, rfl, ?_⟩
  show _ = awaited c.history
  rw [← hids]
  simp [UserMessage.cancel, UserMessage.answered, UserMessage.toolResults, ToolResult.failure,
    Function.comp_def]

/-- The assistant's answer is taken, the exchange joins the history, and the history waits for
results of the answer's tool uses. -/
theorem Ready.answer {c : Conversation} (h : c.Ready) (message : AssistantMessage) :
    ∃ c', c.answer message = .ok c' ∧ Paired c'.history ∧ awaited c'.history = message.asked := by
  obtain ⟨u, hu, hids⟩ := h.answers
  refine ⟨_, by rw [Conversation.answer, hu], (h.paired.concat hids).prune _, ?_⟩
  show awaited (prune c.bound (c.history ++ [⟨u, message⟩])) = message.asked
  rw [awaited, getLast?_prune, ← awaited, awaited_concat]

/-- An answer leaves nothing pending and ends the history. -/
theorem ended_of_answer {c answered : Conversation} {message : AssistantMessage}
    (h : c.answer message = .ok answered) : answered.pending = none ∧
      ∃ e, answered.history.getLast? = some e ∧ e.assistant = message := by
  unfold answer at h
  split at h
  · cases h
  · next user _ =>
      obtain rfl := Except.ok.inj h
      refine ⟨rfl, ⟨user, message⟩, ?_, rfl⟩
      rw [getLast?_prune, List.getLast?_concat]

theorem lastUses_of_answer {c answered : Conversation} {message : AssistantMessage}
    (h : c.answer message = .ok answered) : answered.lastUses = message.toolUses := by
  obtain ⟨-, e, hlast, hmessage⟩ := ended_of_answer h
  rw [lastUses, hlast, ← hmessage]

theorem lastUses_congr {c c' : Conversation} (h : c'.history = c.history) :
    c'.lastUses = c.lastUses := by
  rw [lastUses, lastUses, h]

theorem paired_compact (c : Conversation) (text : String) : Paired (c.compact text).history := .nil

theorem paired_clear (c : Conversation) (keepSummary : Bool) :
    Paired (c.clear keepSummary).history := .nil

end Conversation

/-! ## Messages as they are sent -/

/-- Messages in which the user and the assistant take turns, the user first and last, and every
message of the user carries results for exactly the tool uses of the assistant's message before it,
in their order; the first one for those of `asked`. -/
inductive Dialogue : List String → List Message → Prop
  | last {asked u} : u.role = .user → u.toolUses = [] → u.toolResults.map (·.useId) = asked →
      Dialogue asked [u]
  | exchange {asked u a rest} : u.role = .user → u.toolUses = [] →
      u.toolResults.map (·.useId) = asked → a.role = .assistant → a.toolResults = [] →
      Dialogue (a.toolUses.map (·.id)) rest → Dialogue asked (u :: a :: rest)

/-- A request that a model can make sense of: a system message perhaps, and a dialogue that begins
without results. -/
def ChatDialogue (messages : List Message) : Prop :=
  ∃ (lead : Option String) (dialogue : List Message),
    messages = (lead.map Message.system).toList ++ dialogue ∧ Dialogue [] dialogue

/-- A paired history goes on from what was asked before it to what it waits for. -/
theorem Dialogue.of_history {history : List Exchange} {rest : List Message}
    (h : Paired history) (hrest : Dialogue (awaited history) rest) :
    Dialogue [] (history.flatMap Exchange.messages ++ rest) := by
  suffices key : ∀ (tail : List Exchange) (e : Exchange),
      (e :: tail).IsChain (fun e later => later.user.answered = e.assistant.asked) →
      Dialogue (awaited (e :: tail)) rest →
      Dialogue e.user.answered ((e :: tail).flatMap Exchange.messages ++ rest) by
    cases history with
    | nil => exact hrest
    | cons e tail =>
        have hopening := UserMessage.answered_eq_nil.mpr (h.opening e rfl)
        exact hopening ▸ key tail e h.answers hrest
  intro tail
  induction tail with
  | nil =>
      intro e _ hlast
      exact .exchange rfl rfl rfl rfl rfl hlast
  | cons next tail ih =>
      intro e hchain hlast
      obtain ⟨hnext, hchain⟩ := List.isChain_cons_cons.mp hchain
      refine .exchange rfl rfl rfl rfl rfl ?_
      have hgo := ih next hchain (by simpa [awaited] using hlast)
      rw [hnext] at hgo
      exact hgo

/-- **A ready conversation is sent as a dialogue.** -/
theorem Conversation.Ready.sendable {c : Conversation} (h : c.Ready) :
    ∃ messages, c.sendable = .ok messages ∧ ChatDialogue messages := by
  obtain ⟨u, hu, hids⟩ := h.answers
  refine ⟨_, by rw [Conversation.sendable, hu], ?_⟩
  have hpending : Dialogue (awaited c.history)
      [u.toMessage (if u.said?.isSome then c.renderContext else none)] := .last rfl rfl hids
  have hhistory := Dialogue.of_history h.paired hpending
  refine ⟨c.systemPrompt, _, by rw [List.append_assoc, List.append_assoc], ?_⟩
  rw [summaryMessages]
  cases c.summary with
  | none => exact hhistory
  | some text => exact .exchange rfl rfl rfl rfl rfl hhistory

end ToolAgent
