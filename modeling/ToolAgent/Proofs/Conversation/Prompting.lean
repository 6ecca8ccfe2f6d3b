import ToolAgent.Model.Wire
import ToolAgent.Proofs.Conversation.Context

/-!
# What the backend hears of a prompt

A prompt with nothing but blanks is replaced by a placeholder, so that the user says something in
every turn. A prompt that declines tool uses is taken as it is, and the backend is not told of a
text that is empty beside tool results.

* `Prompted` — what comes of a prompt: what the user says by it, and the lines that are sent.
* `say_prompted` — that comes of every prompt in every conversation. The placeholder is there unless
  a blank prompt declines tool uses, and something is heard unless that prompt is empty.
* `unheard_prompt` — a conversation whose user is not heard.
-/

namespace ToolAgent

namespace Wire

/-- The lines for the last message come last. -/
theorem ofMessages_concat (messages : List Message) (m : Message) :
    ∃ names, ofMessages (messages ++ [m]) = ofMessages messages ++ ofMessage names m := by
  suffices key : ∀ known, ∃ names, ofMessagesFrom known (messages ++ [m]) =
      ofMessagesFrom known messages ++ ofMessage names m from key .empty
  induction messages with
  | nil => exact fun known => ⟨known, List.append_nil _⟩
  | cons first rest ih =>
      intro known
      obtain ⟨names, hrest⟩ := ih (learn known first.toolUses)
      refine ⟨names, ?_⟩
      rw [List.cons_append, ofMessagesFrom, ofMessagesFrom, hrest, List.append_assoc]

/-- The lines for a message of the user end with its text, if it has one or carries no results. -/
theorem ofMessage_user (names : ToolNames) {content : String} {results : List ToolResult}
    (h : results = [] ∨ content ≠ "") : ofMessage names (.user content results) =
      results.map (ofResult names) ++ [⟨.user, content, [], none⟩] :=
  congrArg _ (if_pos h)

/-- Of results without a text there are only the lines of the tool. -/
theorem ofMessage_user_empty (names : ToolNames) {results : List ToolResult} (h : results ≠ []) :
    ofMessage names (.user "" results) = results.map (ofResult names) := by
  have hsilent : ¬ (results = [] ∨ "" ≠ "") := by simp [h]
  exact (congrArg _ (if_neg hsilent)).trans (List.append_nil _)

end Wire

/-- A text is more than blanks. -/
def HasWords (text : String) : Prop := ∃ c ∈ text.toList, Text.isBlank c = false

theorem isBlankText_iff {text : String} : Text.isBlankText text = true ↔ ¬ HasWords text := by
  simp [Text.isBlankText, Text.allBlank, HasWords]

/-- What may be said for a prompt: the prompt, and the placeholder if there is nothing in it. -/
def Words (text said : String) : Prop :=
  (HasWords text → said = text) ∧ (¬ HasWords text → said = emptyPrompt)

namespace Conversation

/-! ## What is said -/

/-- What is put in front of what the user says. -/
def lead (c : Conversation) : String :=
  match c.renderContext with
  | some context => context ++ "\n\n"
  | none => ""

theorem lead_eq_empty {c : Conversation} (h : c.contextFiles = []) : c.lead = "" := by
  rw [lead, renderContext, if_pos h]

theorem lead_say (c : Conversation) (text : String) : (c.say text).lead = c.lead := rfl

/-- What the user says is sent behind the context files. -/
theorem sendable_of_said {c : Conversation} {u : UserMessage} (hu : c.pending = some u)
    {said : String} (hsaid : u.said? = some said) : ∃ earlier,
      c.sendable = .ok (earlier ++ [.user (c.lead ++ said) u.toolResults]) := by
  rw [sendable, hu]
  refine ⟨_, congrArg Except.ok (congrArg _ (congrArg ([·]) ?_))⟩
  simp only [hsaid, Option.isSome_some, if_true, UserMessage.toMessage, Option.getD_some]
  rfl

/-- **What is said for a prompt**: the placeholder for a blank one, if no tool uses wait for
results, and the prompt itself otherwise. The results that go with it decline what waits. -/
theorem pending_say (c : Conversation) (text : String) : ∃ u said,
    (c.say text).pending = some u ∧ u.said? = some said ∧
    (u.toolResults = [] ↔ c.lastUses = []) ∧
    (HasWords text → said = text) ∧
    (¬ HasWords text → c.lastUses = [] → said = emptyPrompt) ∧
    (c.lastUses ≠ [] → said = text) := by
  by_cases huses : c.lastUses = []
  · refine ⟨.ofPrompt text, _, congrArg some (if_pos huses), rfl, by simp [huses]; rfl,
      fun hwords => ?_, fun hblank _ => ?_, fun hne => absurd huses hne⟩
    · exact if_neg fun hblank => isBlankText_iff.mp hblank hwords
    · exact if_pos (isBlankText_iff.mpr hblank)
  · refine ⟨.cancel (some text) (c.lastUses.map (·.id)), text, congrArg some (if_neg huses), rfl,
      ?_, fun _ => rfl, fun _ hnone => absurd hnone huses, fun _ => rfl⟩
    simp [UserMessage.cancel, UserMessage.toolResults]

/-! ## What is heard -/

/-- What comes of a prompt: what the user says by it, and the lines that the backend reads. -/
structure Prompted (c : Conversation) (text said : String) (lines : List Wire.Line) : Prop where
  staged : ∃ u, (c.say text).pending = some u ∧ u.said? = some said
  sent : ∃ messages, (c.say text).sendable = .ok messages ∧ Wire.ofMessages messages = lines
  /-- The placeholder stands for all that is blank, unless that declines tool uses. -/
  words : Words text said ↔ HasWords text ∨ c.lastUses = []
  /-- What declines tool uses is said as it is. -/
  declines : c.lastUses ≠ [] → said = text
  /-- The user is heard at the end, unless an empty prompt declines tool uses. -/
  heard : (∃ earlier, lines = earlier ++ [⟨.user, c.lead ++ said, [], none⟩] ∧ said ≠ "") ↔
    text ≠ "" ∨ c.lastUses = []
  /-- Without context files, nothing at all is heard of such a prompt. -/
  unheard : text = "" → c.lastUses ≠ [] → c.contextFiles = [] →
    ∃ last ∈ lines.getLast?, last.role = .tool

theorem hasWords_emptyPrompt : HasWords emptyPrompt := ⟨'E', by decide, by decide⟩

/-- **What comes of a prompt**, in every conversation. -/
theorem say_prompted (c : Conversation) (text : String) :
    ∃ said lines, c.Prompted text said lines := by
  obtain ⟨u, said, hu, hsaid, hresults, hwords, hblank, hdeclines⟩ := c.pending_say text
  obtain ⟨earlier, hsent⟩ := sendable_of_said hu hsaid
  rw [lead_say] at hsent
  obtain ⟨names, hlines⟩ := Wire.ofMessages_concat earlier (.user (c.lead ++ said) u.toolResults)
  refine ⟨said, _, ⟨u, hu, hsaid⟩, ⟨_, hsent, hlines⟩, ?words, hdeclines, ?heard, ?unheard⟩
  case words =>
    constructor
    · rintro ⟨-, hrule⟩
      by_contra hneither
      obtain ⟨hnone, huses⟩ := not_or.mp hneither
      -- Otherwise the prompt, said as it is, would be the placeholder, and that is not blank.
      exact hnone ((hdeclines huses).symm.trans (hrule hnone) ▸ hasWords_emptyPrompt)
    · rintro (hsome | huses)
      · exact ⟨hwords, fun hnone => absurd hsome hnone⟩
      · exact ⟨hwords, fun hnone => hblank hnone huses⟩
  case heard =>
    constructor
    · rintro ⟨-, -, hne⟩
      by_contra hneither
      obtain ⟨htext, huses⟩ := not_or.mp hneither
      exact hne ((hdeclines huses).trans (not_not.mp htext))
    · intro hsome
      have hne : said ≠ "" := by
        by_cases huses : c.lastUses = []
        · by_cases hsaid : HasWords text
          · rw [hwords hsaid]
            rintro rfl
            obtain ⟨_, hmem, -⟩ := hsaid
            cases hmem
          · rw [hblank hsaid huses]
            decide
        · rw [hdeclines huses]
          exact hsome.resolve_right huses
      have hcontent : c.lead ++ said ≠ "" := by simp [hne]
      rw [Wire.ofMessage_user names (.inr hcontent), ← List.append_assoc]
      exact ⟨_, rfl, hne⟩
  case unheard =>
    intro htext huses hfiles
    have hsome : u.toolResults ≠ [] := huses ∘ hresults.mp
    obtain ⟨front, last, hlast⟩ := (List.eq_nil_or_concat u.toolResults).resolve_left hsome
    have hcontent : c.lead ++ said = "" := by rw [hdeclines huses, htext, lead_eq_empty hfiles]; rfl
    rw [hcontent, Wire.ofMessage_user_empty names hsome, hlast,
      List.concat_eq_append, List.map_append, ← List.append_assoc, List.map_singleton,
      List.getLast?_concat]
    exact ⟨_, rfl, rfl⟩

/-! ## A user who is not heard -/

/-- A tool use waits for its results; that happens when a turn fails in between. -/
def waiting : List Operation :=
  [.say "go", .answer (.toolRequest none "" [⟨"1", "fs_read", .null⟩])]

/-- An empty prompt is staged as it is, and the backend reads nothing of it. -/
theorem unheard_prompt :
    (∀ p ∈ (start "1" 10 []).steps (waiting ++ [.say ""]), p.1.Permits p.2) ∧
      ∃ u, ((start "1" 10 []).applyAll (waiting ++ [.say ""])).pending = some u ∧
        u.said? = some "" ∧ ¬ Words "" "" ∧
        ∃ messages, ((start "1" 10 []).applyAll (waiting ++ [.say ""])).sendable = .ok messages ∧
          Wire.ofMessages messages = [⟨.user, "go", [], none⟩,
            ⟨.assistant, "", [⟨"1", "fs_read", .null⟩], none⟩,
            ⟨.tool, cancelledText, [], some "fs_read"⟩] := by
  have hwords : ¬ Words "" "" := by
    rintro ⟨-, hblank⟩
    have hnone : ¬ HasWords "" := isBlankText_iff.mp (by decide)
    exact absurd (hblank hnone) (by decide)
  have hsent : ((start "1" 10 []).applyAll (waiting ++ [.say ""])).sendable =
      .ok [.user "go" [], .assistant "" [⟨"1", "fs_read", .null⟩],
        .user "" [.failure "1" cancelledText]] := by decide +kernel
  exact ⟨by decide +kernel, .cancel (some "") ["1"], by decide +kernel, rfl, hwords, _, hsent,
    by decide +kernel⟩

end Conversation

end ToolAgent
