import Mathlib.Data.List.Nodup
import ToolAgent.Proofs.Conversation.Operations
import ToolAgent.Proofs.Since

/-!
# Context files

Context files are shown to the model in front of what the user says. They stand beside the history
and are not kept with it, so it is the pending message that decides whether a request shows them.

* `mem_contextFiles_iff` — the files that there are after any operations, each with the content that
  it was last given (`Stands`).
* `context_sent` — a pending message with words of the user is sent behind the context files; one
  with nothing but results is sent as if there were no files.
-/

namespace ToolAgent

/-- Whether an operation leaves the context file of this name as it is. -/
def Operation.keepsFile (name : String) : Operation → Bool
  | .addContextFile other _ => other ≠ name
  | .clearContextFiles => false
  | _ => true

/-- After these operations there is a context file of this name and content: it was added, and since
then neither replaced nor taken away. -/
def ContextFile.Stands (file : ContextFile) (ops : List Operation) : Prop :=
  Since (· = .addContextFile file.name file.content) (·.keepsFile file.name = true) ops

/-- The file as it is shown, with its name over its content. -/
def ContextFile.rendered (file : ContextFile) : String :=
  "[" ++ file.name ++ "]\n" ++ file.content ++ "\n"

namespace Conversation

/-! ## Files by name -/

/-- A file that is put replaces the one of its name. -/
theorem mem_putFile {name content : String} {files : List ContextFile} {file : ContextFile}
    (h : (files.map (·.name)).Nodup) :
    file ∈ putFile name content files ↔
      file = ⟨name, content⟩ ∨ file ∈ files ∧ name ≠ file.name := by
  induction files with
  | nil => simp [putFile]
  | cons first rest ih =>
      obtain ⟨hfirst, hrest⟩ := List.nodup_cons.mp h
      rw [putFile]
      split
      · next hname =>
          -- The names differ, so the file that is replaced is the only one of its name.
          have hothers : ∀ other ∈ rest, name ≠ other.name := by
            intro other hother hsame
            exact hfirst (List.mem_map.mpr ⟨other, hother, (hname.trans hsame).symm⟩)
          rw [List.mem_cons, List.mem_cons, or_and_right]
          constructor
          · exact Or.imp_right fun hfile => .inr ⟨hfile, hothers file hfile⟩
          · rintro (hfile | ⟨rfl, hne⟩ | ⟨hfile, -⟩)
            · exact .inl hfile
            · exact absurd hname.symm hne
            · exact .inr hfile
      · next hname =>
          rw [List.mem_cons, ih hrest, List.mem_cons, or_and_right]
          constructor
          · rintro (rfl | hfile | hfile)
            · exact .inr (.inl ⟨rfl, fun heq => hname heq.symm⟩)
            · exact .inl hfile
            · exact .inr (.inr hfile)
          · rintro (hfile | ⟨rfl, -⟩ | hfile)
            · exact .inr (.inl hfile)
            · exact .inl rfl
            · exact .inr (.inr hfile)

theorem nodup_putFile {name content : String} {files : List ContextFile}
    (h : (files.map (·.name)).Nodup) : ((putFile name content files).map (·.name)).Nodup := by
  induction files with
  | nil => simp [putFile]
  | cons first rest ih =>
      obtain ⟨hfirst, hrest⟩ := List.nodup_cons.mp h
      rw [putFile]
      split
      · next hname =>
          rw [List.map_cons, ← hname]
          exact h
      · next hname =>
          refine List.nodup_cons.mpr ⟨?_, ih hrest⟩
          intro hmem
          obtain ⟨file, hfile, hsame⟩ := List.mem_map.mp hmem
          rcases (mem_putFile hrest).mp hfile with rfl | ⟨hfile, -⟩
          · exact hname hsame.symm
          · exact hfirst (hsame ▸ List.mem_map_of_mem hfile)

/-! ## Files after operations -/

/-- The conversation after several operations. -/
def applyAll (c : Conversation) (ops : List Operation) : Conversation := ops.foldl apply c

theorem applyAll_concat (c : Conversation) (ops : List Operation) (op : Operation) :
    c.applyAll (ops ++ [op]) = (c.applyAll ops).apply op := by
  rw [applyAll, List.foldl_append]
  rfl

theorem contextFiles_answer (c : Conversation) (message : AssistantMessage) :
    (c.apply (.answer message)).contextFiles = c.contextFiles := by
  rw [apply, answer]
  cases c.pending <;> rfl

/-- **What an operation does to the files**: it puts one, or takes all of them away, or leaves them
as they are. -/
theorem contextFiles_apply {c : Conversation} (h : (c.contextFiles.map (·.name)).Nodup)
    (op : Operation) :
    ((c.apply op).contextFiles.map (·.name)).Nodup ∧
      ∀ file, file ∈ (c.apply op).contextFiles ↔
        op = .addContextFile file.name file.content ∨
          file ∈ c.contextFiles ∧ op.keepsFile file.name = true := by
  cases op with
  | addContextFile name content =>
      refine ⟨nodup_putFile h, fun file => ?_⟩
      have hput : file ∈ (c.apply (.addContextFile name content)).contextFiles ↔ _ := mem_putFile h
      have hnew : file = ⟨name, content⟩ ↔
          Operation.addContextFile name content = .addContextFile file.name file.content := by
        constructor
        · rintro rfl
          rfl
        · intro hop
          cases hop
          rfl
      rw [hput, hnew, Operation.keepsFile, decide_eq_true_eq]
  | clearContextFiles =>
      refine ⟨List.nodup_nil, fun file => ?_⟩
      simp [apply, clearContextFiles, Operation.keepsFile]
  | answer message =>
      rw [contextFiles_answer]
      exact ⟨h, fun file => by simp [Operation.keepsFile]⟩
  | _ =>
      exact ⟨h, fun file => by simp [apply, say, addResults, abandon, setSystemPrompt, setSummary,
        compact, clear, setTools, Operation.keepsFile]⟩

/-- **The context files after any operations** are those that stand. -/
theorem mem_contextFiles_iff (id : String) (limit : Nat) (tools : List ToolSpec)
    (ops : List Operation) (file : ContextFile) :
    file ∈ ((start id limit tools).applyAll ops).contextFiles ↔ file.Stands ops := by
  suffices key : (((start id limit tools).applyAll ops).contextFiles.map (·.name)).Nodup ∧
      ∀ file, file ∈ ((start id limit tools).applyAll ops).contextFiles ↔ file.Stands ops from
    key.2 file
  induction ops using List.reverseRecOn with
  | nil => exact ⟨List.nodup_nil, fun file => iff_of_false List.not_mem_nil not_since_nil⟩
  | append_singleton ops op ih =>
      obtain ⟨hnames, hfiles⟩ := ih
      obtain ⟨hnames', hfiles'⟩ := contextFiles_apply hnames op
      rw [applyAll_concat]
      refine ⟨hnames', fun file => ?_⟩
      rw [hfiles', hfiles, ContextFile.Stands, ContextFile.Stands, since_concat]

/-! ## What is sent -/

/-- Every file is in the rendered context. -/
theorem renderContext_of_mem {c : Conversation} {file : ContextFile} (h : file ∈ c.contextFiles) :
    ∃ before after, c.renderContext = some (before ++ file.rendered ++ after) := by
  obtain ⟨front, rest, hsplit⟩ := List.append_of_mem h
  have hrendered : c.renderContext =
      some ("--- CONTEXT FILES BEGIN ---\n" ++ String.join (c.contextFiles.map ContextFile.rendered)
        ++ "--- CONTEXT FILES END ---") := if_neg (List.ne_nil_of_mem h)
  rw [hrendered, hsplit, List.map_append, List.map_cons, String.join_append, String.join_cons]
  refine ⟨"--- CONTEXT FILES BEGIN ---\n" ++ String.join (front.map ContextFile.rendered),
    String.join (rest.map ContextFile.rendered) ++ "--- CONTEXT FILES END ---", ?_⟩
  simp only [String.append_assoc]

/-- **What a pending message is sent with.** What the user says is sent behind the context, and
nothing but results as if there were no files. -/
theorem sendable_of_pending {c : Conversation} {u : UserMessage} (hu : c.pending = some u)
    {context : String} (hcontext : c.renderContext = some context) :
    (∀ text, u.said? = some text → ∃ earlier,
      c.sendable = .ok (earlier ++ [.user (context ++ "\n\n" ++ text) u.toolResults])) ∧
    (u.said? = none → c.sendable = c.clearContextFiles.sendable) := by
  constructor
  · intro text hsaid
    rw [sendable, hu]
    refine ⟨_, congrArg Except.ok (congrArg _ (congrArg ([·]) ?_))⟩
    rw [hsaid, hcontext]
    simp [UserMessage.toMessage, hsaid]
  · intro hsaid
    have hu' : c.clearContextFiles.pending = some u := hu
    simp only [sendable, hu, hu', hsaid]
    rfl

/-- **When the model sees the context files.** Whatever was done to a new conversation, there are
the context files that stand. If there are any and something in which the user speaks is pending,
then it is sent behind the context, which shows each file by its name and its content. If nothing
but results are pending, they are sent as if there were no files. -/
theorem context_sent (id : String) (limit : Nat) (tools : List ToolSpec) (ops : List Operation)
    {now : Conversation} (hnow : (start id limit tools).applyAll ops = now)
    {u : UserMessage} (hu : now.pending = some u) (hfiles : now.contextFiles ≠ []) :
    (∀ text, u.said? = some text → ∃ earlier context,
      now.renderContext = some context ∧
      now.sendable = .ok (earlier ++ [.user (context ++ "\n\n" ++ text) u.toolResults]) ∧
      ∀ file : ContextFile, file.Stands ops → ∃ before after,
        context = before ++ file.rendered ++ after) ∧
    (u.said? = none → now.sendable = now.clearContextFiles.sendable) := by
  obtain ⟨context, hcontext⟩ : ∃ context, now.renderContext = some context :=
    ⟨_, if_neg hfiles⟩
  obtain ⟨hspoken, hresults⟩ := sendable_of_pending hu hcontext
  refine ⟨fun text hsaid => ?_, hresults⟩
  obtain ⟨earlier, hsent⟩ := hspoken text hsaid
  refine ⟨earlier, context, hcontext, hsent, fun file hstands => ?_⟩
  rw [← mem_contextFiles_iff id limit tools ops, hnow] at hstands
  obtain ⟨before, after, hrendered⟩ := renderContext_of_mem hstands
  exact ⟨before, after, Option.some.inj (hcontext.symm.trans hrendered)⟩

/-- A file is shown, changed, and still there when the user declines a tool. -/
def declining : List Operation :=
  [.addContextFile "notes.md" "remember", .addContextFile "plan.md" "read", .say "read it",
    .answer (.toolRequest none "" [⟨"1", "fs_read", .null⟩]), .addContextFile "notes.md" "forget",
    .abandon [⟨"1", "fs_read", .null⟩] none]

theorem context_sent_declining :
    ∃ now u, (start "1" 10 []).applyAll declining = now ∧ now.pending = some u ∧
      now.contextFiles = [⟨"notes.md", "forget"⟩, ⟨"plan.md", "read"⟩] ∧
      ContextFile.Stands ⟨"notes.md", "forget"⟩ declining ∧
      ∃ earlier context, now.sendable =
          .ok (earlier ++ [.user (context ++ "\n\n" ++ cancelledText) u.toolResults]) ∧
        ∃ before after, context = before ++ "[notes.md]\nforget\n" ++ after := by
  have hpending : ((start "1" 10 []).applyAll declining).pending =
      some (.cancel none ["1"]) := by decide +kernel
  have hfiles : ((start "1" 10 []).applyAll declining).contextFiles =
      [⟨"notes.md", "forget"⟩, ⟨"plan.md", "read"⟩] := by decide +kernel
  have hstands : ContextFile.Stands ⟨"notes.md", "forget"⟩ declining := by
    rw [← mem_contextFiles_iff "1" 10 [], hfiles]
    exact List.mem_cons_self
  have hsome : ((start "1" 10 []).applyAll declining).contextFiles ≠ [] := by
    rw [hfiles]
    exact List.cons_ne_nil _ _
  have hsent := context_sent "1" 10 [] declining rfl hpending hsome
  obtain ⟨earlier, context, -, hmessages, hshown⟩ := hsent.1 cancelledText rfl
  exact ⟨_, _, rfl, hpending, hfiles, hstands, earlier, context, hmessages, hshown _ hstands⟩

/-- A file is shown, and the results of a tool are pending. -/
def reading : List Operation := .addContextFile "notes.md" "remember" :: toolRound

/-- No message that is sent with the results says anything of the file. -/
theorem context_withheld :
    ((start "1" 10 []).applyAll reading).contextFiles = [⟨"notes.md", "remember"⟩] ∧
      ((start "1" 10 []).applyAll reading).pending =
        some (.results [⟨"1", [.text "words"], .success⟩]) ∧
      ∃ messages, ((start "1" 10 []).applyAll reading).sendable = .ok messages ∧
        ∀ message ∈ messages, ¬ "notes.md".toList <:+: message.content.toList ∧
          ¬ "remember".toList <:+: message.content.toList := by
  have hsent : ((start "1" 10 []).applyAll reading).sendable =
      .ok [.user "read it" [], .assistant "" [⟨"1", "fs_read", .null⟩],
        .user "" [⟨"1", [.text "words"], .success⟩]] := by decide +kernel
  exact ⟨by decide +kernel, by decide +kernel, _, hsent, by decide +kernel⟩

end Conversation

end ToolAgent
