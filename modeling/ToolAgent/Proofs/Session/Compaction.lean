import Mathlib.Data.List.Chain
import ToolAgent.Proofs.Session.Course
import ToolAgent.Proofs.Session.Replies

/-!
# Requests for a summary

A compaction sends the history and asks for a summary of it. What is pending is not sent; so the
tool uses at the end of a history that has been left by a failed turn come without their results,
although these may be there, staged.

* `Linked` — calls and results stand side by side in what is sent. `Linked.of_dialogue` takes it
  from the dialogues of `Proofs.Conversation.Pairing`.
* `compaction_linked_iff` — a request for a summary is linked except after a turn that was cut
  short; and what is missing then is no more than the results of the last tool uses.
-/

namespace ToolAgent

variable {τ μ α π : Type}

/-! ## Calls and results side by side -/

/-- Results stand directly behind the calls that they answer: an assistant's message with tool uses
has a reply with results for exactly these, and a message with results is such a reply. -/
structure Linked (messages : List Message) : Prop where
  called : ∀ before m later, messages = before ++ m :: later → m.role = .assistant →
    m.toolUses ≠ [] → ∃ reply rest, later = reply :: rest ∧
      reply.toolResults.map (·.useId) = m.toolUses.map (·.id)
  answered : ∀ before m later, messages = before ++ m :: later → m.toolResults ≠ [] →
    ∃ front asking, before = front ++ [asking] ∧ asking.role = .assistant ∧
      m.toolResults.map (·.useId) = asking.toolUses.map (·.id)

/-- A message carries the results for the tool uses of the one before it. -/
def Message.Replies (m reply : Message) : Prop :=
  reply.toolResults.map (·.useId) = m.toolUses.map (·.id) ∧
    (reply.toolResults ≠ [] → m.role = .assistant)

theorem Linked.of_chain {messages : List Message} (h : messages.IsChain Message.Replies)
    (hopening : ∀ m ∈ messages.head?, m.toolResults = [])
    (hlast : ∀ m ∈ messages.getLast?, m.toolUses = []) : Linked messages := by
  have hbeside := List.isChain_iff_forall_rel_of_append_cons_cons.mp h
  constructor
  · intro before m later hsplit _ huses
    cases later with
    | nil =>
        have hnone : m.toolUses = [] := hlast m (by rw [hsplit, List.getLast?_concat]; rfl)
        exact absurd hnone huses
    | cons reply rest => exact ⟨reply, rest, rfl, (hbeside hsplit).1⟩
  · intro before m later hsplit hresults
    rcases List.eq_nil_or_concat' before with rfl | ⟨front, asking, rfl⟩
    · have hnone : m.toolResults = [] := hopening m (by rw [hsplit]; rfl)
      exact absurd hnone hresults
    · rw [List.append_assoc] at hsplit
      obtain ⟨hids, hrole⟩ := hbeside hsplit
      exact ⟨front, asking, rfl, hrole hresults, hids⟩

/-- A dialogue begins with results for what was asked, goes on with a reply to each message, and
ends without calls. -/
theorem Dialogue.replies {asked : List String} {messages : List Message}
    (h : Dialogue asked messages) :
    messages.IsChain Message.Replies ∧
      (∃ first rest, messages = first :: rest ∧ first.toolResults.map (·.useId) = asked) ∧
      ∀ m ∈ messages.getLast?, m.toolUses = [] := by
  induction h with
  | @last asked u _ huses hresults =>
      refine ⟨.singleton u, ⟨u, [], rfl, hresults⟩, ?_⟩
      intro m hm
      obtain rfl : u = m := by simpa using hm
      exact huses
  | @exchange asked u a rest _ huses hresults hrole hnone _ ih =>
      obtain ⟨hchain, ⟨first, tail, rfl, hids⟩, hlast⟩ := ih
      have hua : Message.Replies u a := ⟨by rw [hnone, huses]; rfl, fun h => absurd hnone h⟩
      have hafirst : Message.Replies a first := ⟨hids, fun _ => hrole⟩
      refine ⟨.cons_cons hua (.cons_cons hafirst hchain), ⟨u, _, rfl, hresults⟩, ?_⟩
      intro m hm
      refine hlast m ?_
      simpa using hm

theorem Linked.of_dialogue {lead : Message} {messages : List Message} (h : Dialogue [] messages)
    (huses : lead.toolUses = []) (hresults : lead.toolResults = []) :
    Linked (lead :: messages) := by
  obtain ⟨hchain, ⟨first, rest, rfl, hids⟩, hlast⟩ := h.replies
  have hnone : first.toolResults = [] := List.map_eq_nil_iff.mp hids
  have hfirst : Message.Replies lead first :=
    ⟨by rw [hids, huses]; rfl, fun h => absurd hnone h⟩
  refine .of_chain (.cons_cons hfirst hchain) ?_ ?_
  · intro m hm
    obtain rfl : lead = m := by simpa using hm
    exact hresults
  · intro m hm
    exact hlast m (by simpa using hm)

namespace Conversation

/-- What comes before the instruction in a request for a summary. -/
def toSummarize (c : Conversation) : List Message :=
  c.summaryMessages "Summary of the conversation before this point:" "Noted." ++ c.historyMessages

theorem compaction_eq (c : Conversation) (instruction : String) :
    c.compaction instruction = c.toSummarize ++ [.user instruction []] := rfl

/-- With the results of the last tool uses, a request for a summary is a dialogue. -/
theorem dialogue_toSummarize {c : Conversation} (h : Paired c.history) (instruction : String)
    {results : List ToolResult} (hids : results.map (·.useId) = c.lastUses.map (·.id)) :
    Dialogue [] (c.toSummarize ++ [.user instruction results]) := by
  have hinstruction : Dialogue (awaited c.history) [.user instruction results] :=
    .last rfl rfl (hids.trans c.awaited_eq.symm)
  have hhistory := Dialogue.of_history h hinstruction
  rw [toSummarize, List.append_assoc, summaryMessages]
  cases c.summary with
  | none => exact hhistory
  | some text => exact .exchange rfl rfl rfl rfl rfl hhistory

/-- The last message before the instruction is the last one of the history. -/
theorem toSummarize_eq_of_lastUses {c : Conversation} (h : c.lastUses ≠ []) :
    ∃ front m, c.toSummarize = front ++ [m] ∧ m.role = .assistant ∧ m.toolUses = c.lastUses := by
  rcases List.eq_nil_or_concat' c.history with hnone | ⟨earlier, e, hhistory⟩
  · rw [lastUses, hnone] at h
    exact absurd rfl h
  · have hmessages : c.historyMessages =
        (earlier.flatMap Exchange.messages ++ [e.user.toMessage none]) ++
          [e.assistant.toMessage] := by
      rw [historyMessages, hhistory, List.flatMap_append, List.append_assoc]
      rfl
    have huses : e.assistant.toMessage.toolUses = c.lastUses := by
      rw [lastUses, hhistory, List.getLast?_concat]
      rfl
    rw [toSummarize, hmessages, ← List.append_assoc]
    exact ⟨_, e.assistant.toMessage, rfl, rfl, huses⟩

end Conversation

namespace Session

variable [ChatModel μ]

/-- The requests that a compaction sends. -/
def compactionRequests (s : Session τ μ α) : List ChatRequest :=
  (s.compact.2.acts.drop s.acts.length).filterMap Act.request?

/-- Nothing is sent without a history, and one request with one. -/
theorem compactionRequests_eq (s : Session τ μ α) :
    s.compactionRequests = if s.conversation.history = [] then [] else [s.compactionRequest] := by
  refine Sends.requests_eq ?_
  unfold compact
  split
  · exact .of_acts_eq rfl
  · dsimp only
    split
    · exact ⟨_, rfl, rfl⟩
    · split
      · exact ⟨_, rfl, rfl⟩
      · exact ⟨_, rfl, rfl⟩

theorem eq_of_mem_compactionRequests {s : Session τ μ α} {request : ChatRequest}
    (h : request ∈ s.compactionRequests) : request = s.compactionRequest := by
  rw [compactionRequests_eq] at h
  split at h
  · cases h
  · exact List.mem_singleton.mp h

omit [ChatModel μ] in
/-- A request for a summary of a history that ends with tool uses is not linked: the instruction
comes directly behind the tool uses, without results. -/
theorem not_linked_compactionRequest {s : Session τ μ α} (h : s.conversation.lastUses ≠ []) :
    ¬ Linked s.compactionRequest.messages := by
  intro hlinked
  obtain ⟨front, m, hfront, hrole, huses⟩ := Conversation.toSummarize_eq_of_lastUses h
  have hsplit : s.compactionRequest.messages =
      (Message.system compactionSystemPrompt :: front) ++ m :: [.user compactionPrompt []] := by
    show Message.system compactionSystemPrompt :: s.conversation.compaction compactionPrompt = _
    rw [Conversation.compaction_eq, hfront, List.append_assoc]
    rfl
  obtain ⟨reply, rest, hreply, hids⟩ := hlinked.called _ _ _ hsplit hrole (huses ▸ h)
  obtain ⟨rfl, -⟩ := List.cons.inj hreply
  have hnone : m.toolUses = [] := List.map_eq_nil_iff.mp hids.symm
  exact h (huses.symm.trans hnone)

variable [Workbench τ π] [Approver α]

/-- **When requests for a summary are well formed.** Calls and results stand side by side in what a
compaction sends, except where a turn has failed after a round of tools and no call has changed the
history since. And all that is wrong then is the end: the results of the last tool uses, sent with
the instruction, would put it right. -/
theorem compaction_linked_iff {past : List (Session τ μ α × Call)} {s : Session τ μ α}
    (h : Course past s) :
    ((∀ request ∈ s.compactionRequests, Linked request.messages) ↔ ¬ Stranded past) ∧
      ∀ request ∈ s.compactionRequests, ∃ front,
        request.messages = front ++ [.user compactionPrompt []] ∧
        ∀ results : List ToolResult,
          results.map (·.useId) = s.conversation.lastUses.map (·.id) →
            Linked (front ++ [.user compactionPrompt results]) := by
  have hlinked : ∀ results : List ToolResult,
      results.map (·.useId) = s.conversation.lastUses.map (·.id) →
        Linked (Message.system compactionSystemPrompt ::
          (s.conversation.toSummarize ++ [.user compactionPrompt results])) := by
    intro results hids
    exact .of_dialogue (Conversation.dialogue_toSummarize h.paired compactionPrompt hids) rfl rfl
  refine ⟨?_, ?_⟩
  · -- Without tool uses that wait, the instruction needs no results, and so it is as it should be.
    rw [← h.lastUses_ne_nil_iff]
    constructor
    · intro hall hdangling
      have hhistory : s.conversation.history ≠ [] := by
        intro hnone
        rw [Conversation.lastUses, hnone] at hdangling
        exact hdangling rfl
      refine not_linked_compactionRequest hdangling (hall _ ?_)
      rw [compactionRequests_eq, if_neg hhistory]
      exact List.mem_singleton_self _
    · intro hnone request hrequest
      rw [eq_of_mem_compactionRequests hrequest]
      refine hlinked [] ?_
      rw [not_not.mp hnone]
      rfl
  · intro request hrequest
    rw [eq_of_mem_compactionRequests hrequest]
    exact ⟨Message.system compactionSystemPrompt :: s.conversation.toSummarize, rfl, hlinked⟩

/-! ### A compaction after each turn -/

/-- Once a turn has succeeded, the request for a summary is linked again. -/
theorem linked_after_answer :
    ∃ past, Course past (atDesk.run [.process "write it", .process "go on"]) ∧ ¬ Stranded past ∧
      (atDesk.run [.process "write it", .process "go on"]).compactionRequests ≠ [] ∧
      ∀ request ∈ (atDesk.run [.process "write it", .process "go on"]).compactionRequests,
        Linked request.messages := by
  have hcourse : Course [(atDesk, .process "write it"),
      (atDesk.run [.process "write it"], .process "go on")]
      (atDesk.run [.process "write it", .process "go on"]) :=
    .call (.process "go on") (.call (.process "write it") (.start ..))
  have hlast : (atDesk.run [.process "write it", .process "go on"]).conversation.lastUses = [] := by
    decide +kernel
  have hsettled := mt hcourse.lastUses_ne_nil_iff.mpr (not_not.mpr hlast)
  refine ⟨_, hcourse, hsettled, ?_, (compaction_linked_iff hcourse).1.mpr hsettled⟩
  rw [compactionRequests_eq, if_neg (by decide +kernel)]
  exact List.cons_ne_nil _ _

/-- After the turn that fails, the results of the first tool use are staged, but not sent. -/
theorem unanswered_in_compaction :
    Course [(atDesk, .process "write it")] (atDesk.run [.process "write it"]) ∧
      (atDesk.run [.process "write it"]).conversation.pending =
        some (.results [⟨"1", [.text "written"], .success⟩]) ∧
      (atDesk.run [.process "write it"]).compactionRequests.map (·.messages) =
        [[.system compactionSystemPrompt, .user "write it" [], .assistant "" [writeFile],
          .user compactionPrompt []]] ∧
      ¬ ∀ request ∈ (atDesk.run [.process "write it"]).compactionRequests,
        Linked request.messages := by
  have hmessages : (atDesk.run [.process "write it"]).compactionRequests.map (·.messages) =
      [[.system compactionSystemPrompt, .user "write it" [], .assistant "" [writeFile],
        .user compactionPrompt []]] := by decide +kernel
  refine ⟨.call (.process "write it") (.start ..), by decide +kernel, hmessages, ?_⟩
  intro hall
  obtain ⟨request, hrequest, heq⟩ :
      ∃ request ∈ (atDesk.run [.process "write it"]).compactionRequests, request.messages =
        [.system compactionSystemPrompt, .user "write it" [], .assistant "" [writeFile],
          .user compactionPrompt []] := by
    refine List.mem_map.mp ?_
    rw [hmessages]
    exact List.mem_singleton_self _
  obtain ⟨reply, rest, hreply, hids⟩ := (hall request hrequest).called
    [.system compactionSystemPrompt, .user "write it" []] _ _ heq rfl (List.cons_ne_nil _ _)
  obtain ⟨rfl, -⟩ := List.cons.inj hreply
  cases hids

end Session

end ToolAgent
