import Mathlib.Data.List.Forall2
import ToolAgent.Model.Wire
import ToolAgent.Proofs.Session.Course
import ToolAgent.Proofs.Session.Replies
import ToolAgent.Proofs.Table

/-!
# What the backend gets to read

The backend reads lines, not messages: a message with results becomes several, and a result is known
there by the name of its tool. The names are gathered on the way, and an id that comes again gets
the name of its latest use. That this is always the right one rests on the pairing: results directly
follow the calls that they answer, so the calls learned last are the ones in question.

* `Conveys` — what the lines for one message say, read off the message and the one before it.
* `Dialogue.conveyed` — the lines for a dialogue convey it message by message.
* `turn_conveyed` — the same for all that a turn sends, in any course of a session.
-/

namespace ToolAgent

variable {τ μ α π : Type}

namespace Wire

/-! ## Lines and messages -/

/-- A result answers a use of the tool with this name, in the assistant's message before. -/
def IsNamed (before : Option Message) (r : ToolResult) (name : String) : Prop :=
  ∃ asking ∈ before, asking.role = .assistant ∧
    ∃ use ∈ asking.toolUses, use.id = r.useId ∧ use.name = name

/-- The line for a result. -/
structure Line.Shows (before : Option Message) (r : ToolResult) (l : Line) : Prop where
  role : l.role = .tool
  content : l.content = r.text
  calls : l.calls = []
  named : ∃ name, l.toolName = some name ∧ IsNamed before r name

/-- The line that a message has for itself. -/
def ownLine (m : Message) : Line := ⟨m.role, m.content, m.toolUses, none⟩

/-- Some lines say what a message says: one line for each of its results, in order, and after them
one for the message itself, with its text and all its calls. Only a message with results that says
nothing and calls nothing has no line for itself. A message of the assistant has no other line, and
the tool has no lines but those for results. -/
structure Conveys (before : Option Message) (m : Message) (lines : List Line) : Prop where
  split : ∃ shown own, lines = shown ++ own ∧
    List.Forall₂ (Line.Shows before) m.toolResults shown ∧
    (own = [ownLine m] ∨ own = [] ∧ m.toolResults ≠ [] ∧ m.content = "" ∧ m.toolUses = [])
  assistant : m.role = .assistant → lines = [ownLine m]
  tool : ∀ l ∈ lines, l.role = .tool → ∃ r ∈ m.toolResults, l.Shows before r

/-- Lines say what messages say, one message after the other. -/
inductive Conveyed : Option Message → List Message → List Line → Prop
  | nil {before} : Conveyed before [] []
  | cons {before m lines rest later} : Conveys before m lines → Conveyed (some m) rest later →
      Conveyed before (m :: rest) (lines ++ later)

/-! ## Names -/

/-- Of the uses with an id, the one that was learned last gives the name; there is one if the id is
among those just learned. -/
theorem get?_learn (names : ToolNames) {uses : List ToolUse} {id : String}
    (h : id ∈ uses.map (·.id)) :
    ∃ use ∈ uses, use.id = id ∧ (learn names uses).get? id = some use.name := by
  obtain ⟨named, hnamed, rfl⟩ := List.mem_map.mp h
  have hlearn : learn names uses =
      (uses.map fun use => (use.id, use.name)).foldl (fun t e => t.insert e.1 e.2) names := by
    rw [List.foldl_map]
    rfl
  have hmem : (named.id, named.name) ∈ (uses.map fun use => (use.id, use.name)).reverse :=
    List.mem_reverse.mpr (List.mem_map_of_mem hnamed)
  obtain ⟨name, hfind⟩ := Entries.exists_find?_of_mem hmem
  have hentry := List.mem_reverse.mp (Entries.mem_of_find? hfind)
  obtain ⟨use, huse, heq⟩ := List.mem_map.mp hentry
  obtain ⟨hid, hname⟩ := Prod.mk.inj heq
  refine ⟨use, huse, hid, ?_⟩
  rw [hlearn, Table.get?_foldl_insert, hfind, hname]
  rfl

/-- The name to be found for a result is the right one. -/
def Knows (names : ToolNames) (before : Option Message) (r : ToolResult) : Prop :=
  ∃ name, names.get? r.useId = some name ∧ IsNamed before r name

/-- After a message of the assistant, the names for the results that answer it are known, whatever
its ids stood for earlier. -/
theorem knows_learn (names : ToolNames) {asking : Message} (hrole : asking.role = .assistant)
    {results : List ToolResult}
    (hids : results.map (·.useId) = asking.toolUses.map (·.id)) :
    ∀ r ∈ results, Knows (learn names asking.toolUses) (some asking) r := by
  intro r hr
  have hid : r.useId ∈ asking.toolUses.map (·.id) := by
    rw [← hids]
    exact List.mem_map_of_mem hr
  obtain ⟨use, huse, heq, hget⟩ := get?_learn names hid
  exact ⟨use.name, hget, asking, rfl, hrole, use, huse, heq, rfl⟩

/-! ## One message -/

variable {names : ToolNames} {before : Option Message} {m : Message}

theorem shows_ofResult {r : ToolResult} (h : Knows names before r) :
    (ofResult names r).Shows before r := by
  obtain ⟨name, hget, hnamed⟩ := h
  exact ⟨rfl, rfl, rfl, name, hget, hnamed⟩

/-- The lines for a message of the user, if the names for its results are known. -/
theorem conveys_user (hrole : m.role = .user) (huses : m.toolUses = [])
    (hknown : ∀ r ∈ m.toolResults, Knows names before r) :
    Conveys before m (ofMessage names m) := by
  have hshown : List.Forall₂ (Line.Shows before) m.toolResults
      (m.toolResults.map (ofResult names)) := by
    rw [List.forall₂_map_right_iff, List.forall₂_same]
    intro r hr
    exact shows_ofResult (hknown r hr)
  constructor
  · refine ⟨_, _, rfl, hshown, ?_⟩
    split
    · exact .inl rfl
    · next hsilent =>
        obtain ⟨hresults, hcontent⟩ := not_or.mp hsilent
        exact .inr ⟨rfl, hresults, not_not.mp hcontent, huses⟩
  · intro h
    rw [hrole] at h
    cases h
  · intro l hl htool
    rcases List.mem_append.mp hl with hl | hl
    · obtain ⟨r, hr, rfl⟩ := List.mem_map.mp hl
      exact ⟨r, hr, shows_ofResult (hknown r hr)⟩
    · split at hl
      · obtain rfl := List.mem_singleton.mp hl
        exact absurd (hrole.symm.trans htool) (by decide)
      · cases hl

/-- A message without results becomes one line, whatever it says and calls. -/
theorem conveys_plain (hrole : m.role ≠ .tool) (h : m.toolResults = []) :
    Conveys before m (ofMessage names m) := by
  have hlines : ofMessage names m = [ownLine m] := by
    rw [ofMessage, h, if_pos (.inl rfl)]
    rfl
  rw [hlines]
  refine ⟨⟨[], _, rfl, ?_, .inl rfl⟩, fun _ => rfl, ?_⟩
  · rw [h]
    exact .nil
  · intro l hl htool
    obtain rfl := List.mem_singleton.mp hl
    exact absurd htool hrole

end Wire

open Wire

/-! ## Dialogues -/

/-- **A dialogue is conveyed message by message**, if the names for the results that it begins with
are known. -/
theorem Dialogue.conveyed {asked : List String} {messages : List Message}
    (h : Dialogue asked messages) {names : ToolNames} {before : Option Message}
    (hknown : ∀ results : List ToolResult, results.map (·.useId) = asked →
      ∀ r ∈ results, Knows names before r) :
    Conveyed before messages (ofMessagesFrom names messages) := by
  induction h generalizing names before with
  | @last asked u hrole huses hresults =>
      exact .cons (conveys_user hrole huses (hknown _ hresults)) .nil
  | @exchange asked u a rest hrole huses hresults harole hanone _ ih =>
      have hu : Conveys before u (ofMessage names u) :=
        conveys_user hrole huses (hknown _ hresults)
      have ha : Conveys (some u) a (ofMessage (learn names u.toolUses) a) :=
        conveys_plain (by rw [harole]; decide) hanone
      -- The calls of `a` are learned last, so they hide earlier ones with the same ids.
      have hrest := ih fun results hids => knows_learn (learn names u.toolUses) harole hids
      exact .cons hu (.cons ha hrest)

theorem ChatDialogue.conveyed {messages : List Message} (h : ChatDialogue messages) :
    Conveyed none messages (ofMessages messages) := by
  obtain ⟨lead, dialogue, rfl, hdialogue⟩ := h
  -- At the beginning there are no results, so no names need to be known.
  have hfirst : ∀ (before : Option Message) (results : List ToolResult),
      results.map (·.useId) = [] → ∀ r ∈ results, Knows .empty before r := by
    intro before results hids r hr
    rw [List.map_eq_nil_iff.mp hids] at hr
    cases hr
  cases lead with
  | none => exact hdialogue.conveyed (hfirst none)
  | some text =>
      have hsystem : Conveys none (.system text) (ofMessage .empty (.system text)) :=
        conveys_plain (by rintro ⟨⟩) rfl
      exact .cons hsystem (hdialogue.conveyed (hfirst (some (.system text))))

namespace Session

variable [Workbench τ π] [ChatModel μ] [Approver α]

/-- **The backend reads all that was said, and each result under its tool.** Whatever led to a
session: in each request of a turn, the lines for the backend convey the messages one by one. -/
theorem turn_conveyed {past : List (Session τ μ α × Call)} {s : Session τ μ α} (h : Course past s)
    (input : String) :
    ∀ request ∈ s.turnRequests input,
      Conveyed none request.messages (ofMessages request.messages) := by
  intro request hrequest
  have hdialogue : ChatDialogue request.messages :=
    dialogue_of_mem_turnRequests h.paired hrequest
  exact hdialogue.conveyed

/-- A session whose model uses an id again in the next turn, for another tool. -/
def atReuse : Session Obliging ModelScript Unanimous :=
  start .standard "1" ⟨⟩
    [.toolUses "" [writeFile], .text "ok",
      .toolUses "" [⟨"1", "fs_read", .object [("path", .string "f")]⟩], .text "ok"] ⟨.yes⟩

/-- Each of the two results has the name of its own tool. -/
theorem conveyed_reused_id :
    ∃ past, Course past (atReuse.run [.process "write it"]) ∧
      ∃ request ∈ (atReuse.run [.process "write it"]).turnRequests "read it",
        Conveyed none request.messages (ofMessages request.messages) ∧
        (ofMessages request.messages).filterMap (·.toolName) = ["fs_write", "fs_read"] := by
  have hcourse : Course [(atReuse, .process "write it")] (atReuse.run [.process "write it"]) :=
    .call (.process "write it") (.start ..)
  have hnames : ((atReuse.run [.process "write it"]).turnRequests "read it").map
      (fun request => (ofMessages request.messages).filterMap (·.toolName)) =
        [["fs_write"], ["fs_write", "fs_read"]] := by
    decide +kernel
  obtain ⟨request, hrequest, heq⟩ : ∃ request ∈
      (atReuse.run [.process "write it"]).turnRequests "read it",
        (ofMessages request.messages).filterMap (·.toolName) = ["fs_write", "fs_read"] := by
    refine List.mem_map.mp ?_
    rw [hnames]
    simp
  exact ⟨_, hcourse, request, hrequest, turn_conveyed hcourse "read it" request hrequest, heq⟩

end Session

end ToolAgent
