import ToolAgent.Proofs.Session.Summary
import ToolAgent.Proofs.Session.Trust
import ToolAgent.Proofs.Text.Cut

/-!
# What commands touch

A line with a slash in front is a command. The word behind the slash says which one, in capitals or
not, and what stands behind the first space goes with it; commands about tools are told apart in the
same way once more.

* `Begins`, `Calls`, `Directs` — which word a text begins with, which command a line is, and which
  change of trust it directs.
* `Confined` — what a line may do to a session. A command changes the conversation or the
  permissions or nothing at all, and only a few commands change anything.
* `handleLine_confined` — every line is confined so.
-/

namespace ToolAgent

variable {τ μ α : Type}

/-! ## Words -/

/-- The first word of the text is this one, once in lower case, and behind it stands `rest`, without
the blanks around it. The word ends at the first space, or with the text. -/
inductive Begins : (text word rest : String) → Prop
  | alone {text : String} : ' ' ∉ text.toList → Begins text (Text.Case.lower text) ""
  | followed {first rest : String} : ' ' ∉ first.toList →
      Begins (first ++ " " ++ rest) (Text.Case.lower first) (Text.trim rest)

theorem cut_space_eq_some_iff {text first rest : String} :
    Text.cut text " " = some (first, rest) ↔
      text = first ++ " " ++ rest ∧ ' ' ∉ first.toList := by
  have hcut : Text.cut text " " = some (first, rest) ↔
      Text.cut? [' '] text.toList = some (first.toList, rest.toList) := by
    rw [Text.cut, Option.map_eq_some_iff]
    constructor
    · rintro ⟨⟨before, after⟩, hcut, hpair⟩
      obtain ⟨rfl, rfl⟩ := Prod.mk.inj hpair
      rw [String.toList_ofList, String.toList_ofList]
      exact hcut
    · intro hcut
      exact ⟨_, hcut, by simp only [String.ofList_toList]⟩
  rw [hcut, Text.cut?_singleton_iff, ← String.toList_inj]
  simp [String.toList_append]

/-- **A text is split after its first word.** -/
theorem splitWord_eq_iff {text word rest : String} :
    splitWord text = (word, rest) ↔ Begins text word rest := by
  have hsplit : Begins text (splitWord text).1 (splitWord text).2 := by
    rw [splitWord]
    cases hcut : Text.cut text " " with
    | none =>
        refine .alone (Text.cut?_singleton_eq_none_iff.mp ?_)
        exact Option.map_eq_none_iff.mp hcut
    | some parts =>
        obtain ⟨rfl, hfirst⟩ := cut_space_eq_some_iff.mp hcut
        exact .followed hfirst
  constructor
  · intro h
    rwa [h] at hsplit
  · intro h
    cases h with
    | alone htext =>
        have hcut : Text.cut text " " = none :=
          Option.map_eq_none_iff.mpr (Text.cut?_singleton_eq_none_iff.mpr htext)
        rw [splitWord, hcut]
    | followed hfirst =>
        rw [splitWord, cut_space_eq_some_iff.mpr ⟨rfl, hfirst⟩]

theorem Begins.unique {text word rest word' rest' : String} (h : Begins text word rest)
    (h' : Begins text word' rest') : word = word' ∧ rest = rest' :=
  Prod.mk.inj ((splitWord_eq_iff.mpr h).symm.trans (splitWord_eq_iff.mpr h'))

/-! ## Lines -/

/-- The line is a slash and this command with these arguments, apart from blanks around it. -/
def Calls (line word args : String) : Prop :=
  ∃ text, Text.trim line = "/" ++ text ∧ Begins text word args

/-- The line directs this change of trust. Trust is given only to a tool on offer. -/
inductive Directs (s : Session τ μ α) (line : String) : TrustChange → Prop
  | trust {args name : String} : Calls line "tools" args → Begins args "trust" name → name ≠ "" →
      (∃ spec ∈ s.toolSpecs, spec.name = name) → Directs s line (.trust name)
  | untrust {args name : String} : Calls line "tools" args → Begins args "untrust" name →
      name ≠ "" → Directs s line (.untrust name)
  | trustEvery {args more : String} : Calls line "tools" args → Begins args "trustall" more →
      Directs s line .trustEvery
  | reset {args more : String} : Calls line "tools" args → Begins args "reset" more →
      Directs s line .reset

variable {s : Session τ μ α} {line word args : String}

theorem Calls.unique {word' args' : String} (h : Calls line word args)
    (h' : Calls line word' args') : word = word' ∧ args = args' := by
  obtain ⟨text, htext, hbegins⟩ := h
  obtain ⟨text', htext', hbegins'⟩ := h'
  obtain rfl : text = text' := by
    have hsame := congrArg String.toList (htext.symm.trans htext')
    rw [String.toList_append, String.toList_append] at hsame
    exact String.toList_inj.mp (List.append_cancel_left hsame)
  exact hbegins.unique hbegins'

/-- A line calls a command, or it has no slash in front. -/
theorem exists_calls_or (line : String) :
    (∃ word args, Calls line word args) ∨ ∀ text, Text.trim line ≠ "/" ++ text := by
  by_cases h : ∃ text, Text.trim line = "/" ++ text
  · obtain ⟨text, htext⟩ := h
    exact .inl ⟨_, _, text, htext, splitWord_eq_iff.mp rfl⟩
  · exact .inr (not_exists.mp h)

/-- Which command a line is. -/
theorem ofLine?_of_calls (h : Calls line word args) : Command.ofLine? line = some (
    if word = "quit" || word = "exit" || word = "q" then .quit
    else if word = "clear" then .clear
    else if word = "help" || word = "?" then .help
    else if word = "compact" then .compact
    else if word = "tools" then .tools (.ofText args)
    else if word = "models" then .models
    else if word = "status" then .status
    else .unknown word) := by
  obtain ⟨text, htext, hbegins⟩ := h
  rw [Command.ofLine?, Text.dropStart?_eq_some_iff.mpr htext, Option.map_some, Command.ofText,
    splitWord_eq_iff.mpr hbegins]

theorem ofLine?_eq_none (h : ∀ text, Text.trim line ≠ "/" ++ text) :
    Command.ofLine? line = none := by
  rw [Command.ofLine?, Option.map_eq_none_iff, Option.eq_none_iff_forall_ne_some]
  exact fun text htext => h text (Text.dropStart?_eq_some_iff.mp htext)

/-- The line is a command to quit. -/
def Quits (line : String) : Prop :=
  ∃ word args, Calls line word args ∧ (word = "quit" ∨ word = "exit" ∨ word = "q")

theorem ofLine?_eq_quit_iff : Command.ofLine? line = some .quit ↔ Quits line := by
  constructor
  · intro hline
    rcases exists_calls_or line with ⟨word, args, hcalls⟩ | hpasses
    · rw [ofLine?_of_calls hcalls, Option.some_inj] at hline
      by_cases hword : word = "quit" ∨ word = "exit" ∨ word = "q"
      · exact ⟨word, args, hcalls, hword⟩
      · -- No other word is a command to quit.
        rw [if_neg (by simpa [or_assoc] using hword)] at hline
        repeat' split at hline
        all_goals cases hline
    · rw [ofLine?_eq_none hpasses] at hline
      cases hline
  · rintro ⟨word, args, hcalls, hword⟩
    rw [ofLine?_of_calls hcalls, if_pos (by simpa [or_assoc] using hword)]

/-- Which command about tools the arguments are. -/
theorem ofText_of_begins {name : String} (h : Begins args word name) : ToolsCommand.ofText args =
    if word = "" then .list
    else if word = "trust" then if name = "" then .incomplete word else .trust name
    else if word = "untrust" then if name = "" then .incomplete word else .untrust name
    else if word = "trustall" then .trustAll
    else if word = "reset" then .reset
    else .unknown word := by
  rw [ToolsCommand.ofText, splitWord_eq_iff.mpr h]

/-! ## Commands about tools -/

namespace Session

/-- **The changes of trust that a line directs** are those that its command makes. -/
theorem directs_iff {change : TrustChange} (h : Calls line "tools" args) :
    Directs s line change ↔ change ∈ s.toolsChanges (.ofText args) := by
  constructor
  · intro hdirects
    cases hdirects with
    | trust hcalls hbegins hname hspec =>
        obtain ⟨-, rfl⟩ := h.unique hcalls
        rw [ofText_of_begins hbegins]
        simpa [hname, toolsChanges] using hspec
    | untrust hcalls hbegins hname =>
        obtain ⟨-, rfl⟩ := h.unique hcalls
        rw [ofText_of_begins hbegins]
        simp [hname, toolsChanges]
    | trustEvery hcalls hbegins =>
        obtain ⟨-, rfl⟩ := h.unique hcalls
        rw [ofText_of_begins hbegins]
        simp [toolsChanges]
    | reset hcalls hbegins =>
        obtain ⟨-, rfl⟩ := h.unique hcalls
        rw [ofText_of_begins hbegins]
        simp [toolsChanges]
  · intro hmem
    -- The arguments begin with one word, and that decides between the commands.
    have hbegins : Begins args (splitWord args).1 (splitWord args).2 := splitWord_eq_iff.mp rfl
    generalize (splitWord args).1 = word at hbegins
    generalize (splitWord args).2 = name at hbegins
    rw [ofText_of_begins hbegins] at hmem
    split at hmem
    · cases hmem
    · split at hmem
      · next hword =>
          split at hmem
          · cases hmem
          · next hname =>
              rw [toolsChanges] at hmem
              split at hmem
              · next hspec =>
                  obtain rfl := List.mem_singleton.mp hmem
                  exact .trust h (hword ▸ hbegins) hname (by simpa using hspec)
              · cases hmem
      · split at hmem
        · next hword =>
            split at hmem
            · cases hmem
            · next hname =>
                obtain rfl := List.mem_singleton.mp hmem
                exact .untrust h (hword ▸ hbegins) hname
        · split at hmem
          · next hword =>
              obtain rfl := List.mem_singleton.mp hmem
              exact .trustEvery h (hword ▸ hbegins)
          · split at hmem
            · next hword =>
                obtain rfl := List.mem_singleton.mp hmem
                exact .reset h (hword ▸ hbegins)
            · cases hmem

/-- A command about tools makes one change of trust at most. -/
theorem toolsChanges_eq (s : Session τ μ α) (c : ToolsCommand) :
    s.toolsChanges c = [] ∨ ∃ change, s.toolsChanges c = [change] := by
  cases c with
  | trust name =>
      rw [toolsChanges]
      split
      · exact .inr ⟨_, rfl⟩
      · exact .inl rfl
  | untrust name => exact .inr ⟨_, rfl⟩
  | trustAll => exact .inr ⟨_, rfl⟩
  | reset => exact .inr ⟨_, rfl⟩
  | list => exact .inl rfl
  | incomplete word => exact .inl rfl
  | unknown word => exact .inl rfl

/-! ## All commands -/

variable [ChatModel μ]

/-- What a line may do to a session, and what it is answered with. -/
structure Confined (s : Session τ μ α) (line : String) (result : Except Error Reply)
    (after : Session τ μ α) : Prop where
  /-- What is no command is passed on without the blanks around it. -/
  passes : (∀ text, Text.trim line ≠ "/" ++ text) →
    result = .ok (.message (Text.trim line)) ∧ after = s
  conversation : after.conversation ≠ s.conversation →
    ∃ args, Calls line "clear" args ∨ Calls line "compact" args
  permissions : after.permissions ≠ s.permissions → ∃ change, Directs s line change
  /-- What was said is forgotten, and nothing else. -/
  clears : ∀ args, Calls line "clear" args → after =
    { s with conversation := { s.conversation with history := [], pending := none } }
  /-- A summary takes the place of the history. Without one nothing changes, though the model may
  have been asked. -/
  compacts : ∀ args, Calls line "compact" args →
    (∃ summary, s.compact.1 = .ok (some summary) ∧ after = { s.asked with
      conversation := { s.conversation with summary := some summary, history := [] } }) ∨
    (∀ summary, s.compact.1 ≠ .ok (some summary)) ∧ (after = s ∨ after = s.asked)
  directs : ∀ change, Directs s line change →
    after = { s with permissions := s.permissions.change change }
  /-- Only a tool on offer is trusted, and no other with it. -/
  trusts : ∀ name, Directs s line (.trust name) →
    (∃ spec ∈ s.toolSpecs, spec.name = name) ∧
    after.permissions.trustAll = s.permissions.trustAll ∧
    ∀ tool, tool ∈ after.permissions.trusted ↔ tool = name ∨ tool ∈ s.permissions.trusted
  /-- All other lines leave all as it is; the list of models is asked for, if that is wanted. -/
  otherwise : (∀ args, ¬ Calls line "clear" args) → (∀ args, ¬ Calls line "compact" args) →
    (∀ change, ¬ Directs s line change) →
      after = { s with model := after.model } ∧ ((∀ args, ¬ Calls line "models" args) → after = s)

theorem handleLine_of_calls (h : Calls line word args) : s.handleLine line = s.runCommand (
    if word = "quit" || word = "exit" || word = "q" then .quit
    else if word = "clear" then .clear
    else if word = "help" || word = "?" then .help
    else if word = "compact" then .compact
    else if word = "tools" then .tools (.ofText args)
    else if word = "models" then .models
    else if word = "status" then .status
    else .unknown word) := by
  rw [handleLine, ofLine?_of_calls h]

theorem handleLine_tools (h : Calls line "tools" args) : (s.handleLine line).2 =
    { s with permissions := s.permissions.changeAll (s.toolsChanges (.ofText args)) } := by
  rw [handleLine_of_calls h]
  exact s.runToolsCommand_eq _

theorem runCommand_compact (s : Session τ μ α) : (s.runCommand .compact).2 = s.compact.2 := by
  dsimp only [runCommand]
  rcases s.compact with ⟨_ | _ | _, _⟩ <;> rfl

theorem handleLine_compact (h : Calls line "compact" args) :
    (s.handleLine line).2 = s.compact.2 := by
  rw [handleLine_of_calls h]
  exact s.runCommand_compact

/-- A change of trust that is directed is made. -/
theorem handleLine_of_directs {change : TrustChange} (h : Directs s line change) :
    (s.handleLine line).2 = { s with permissions := s.permissions.change change } := by
  obtain ⟨args, hcalls⟩ : ∃ args, Calls line "tools" args := by
    cases h with
    | trust hcalls => exact ⟨_, hcalls⟩
    | untrust hcalls => exact ⟨_, hcalls⟩
    | trustEvery hcalls => exact ⟨_, hcalls⟩
    | reset hcalls => exact ⟨_, hcalls⟩
  have hmem := (directs_iff hcalls).mp h
  rw [handleLine_tools hcalls]
  rcases s.toolsChanges_eq (.ofText args) with hnone | ⟨made, hmade⟩
  · rw [hnone] at hmem
    cases hmem
  · rw [hmade] at hmem ⊢
    obtain rfl := List.mem_singleton.mp hmem
    rfl

/-- A compaction without a summary changes nothing about the conversation. -/
theorem compact_cases (s : Session τ μ α) :
    (∃ summary, s.compact.1 = .ok (some summary) ∧ s.compact.2 = { s.asked with
      conversation := { s.conversation with summary := some summary, history := [] } }) ∨
    (∀ summary, s.compact.1 ≠ .ok (some summary)) ∧ (s.compact.2 = s ∨ s.compact.2 = s.asked) := by
  obtain ⟨result, after, houtcome⟩ := exists_compaction s
  rw [houtcome.compact_eq]
  cases houtcome with
  | nothing => exact .inr ⟨nofun, .inl rfl⟩
  | unanswered => exact .inr ⟨nofun, .inr rfl⟩
  | blank => exact .inr ⟨nofun, .inr rfl⟩
  | summarized => exact .inl ⟨_, rfl, rfl⟩

/-- A line that neither forgets nor directs anything leaves the session as it is. -/
theorem handleLine_of_otherwise (hclear : ∀ args, ¬ Calls line "clear" args)
    (hcompact : ∀ args, ¬ Calls line "compact" args)
    (hdirects : ∀ change, ¬ Directs s line change) :
    (s.handleLine line).2 = { s with model := (s.handleLine line).2.model } ∧
      ((∀ args, ¬ Calls line "models" args) → (s.handleLine line).2 = s) := by
  rcases exists_calls_or line with ⟨word, args, hcalls⟩ | hpasses
  · by_cases htools : word = "tools"
    · subst htools
      have hnone : s.toolsChanges (.ofText args) = [] :=
        List.eq_nil_iff_forall_not_mem.mpr fun change hmem =>
          hdirects change ((directs_iff hcalls).mpr hmem)
      rw [handleLine_tools hcalls, hnone]
      exact ⟨rfl, fun _ => rfl⟩
    · have hclear : word ≠ "clear" := fun h => hclear args (h ▸ hcalls)
      have hcompact : word ≠ "compact" := fun h => hcompact args (h ▸ hcalls)
      rw [handleLine_of_calls hcalls, if_neg hclear, if_neg hcompact, if_neg htools]
      by_cases hmodels : word = "models"
      · subst hmodels
        exact ⟨rfl, fun h => absurd hcalls (h args)⟩
      · rw [if_neg hmodels]
        -- All that is left says something, and that is all.
        split
        · exact ⟨rfl, fun _ => rfl⟩
        · split
          · exact ⟨rfl, fun _ => rfl⟩
          · split <;> exact ⟨rfl, fun _ => rfl⟩
  · rw [handleLine, ofLine?_eq_none hpasses]
    exact ⟨rfl, fun _ => rfl⟩

/-- **Commands touch only what they name.** Whatever the line, it changes the conversation only if
it is `/clear` or `/compact`, and the permissions only if it directs a change of trust; and each of
these changes is made to that part alone. -/
theorem handleLine_confined (s : Session τ μ α) (line : String) :
    Confined s line (s.handleLine line).1 (s.handleLine line).2 where
  passes hpasses := by
    rw [handleLine, ofLine?_eq_none hpasses]
    exact ⟨rfl, rfl⟩
  conversation hchanged := by
    by_contra hneither
    rw [not_exists] at hneither
    by_cases hdirects : ∃ change, Directs s line change
    · obtain ⟨change, hdirects⟩ := hdirects
      have hframe := congrArg Session.conversation (handleLine_of_directs hdirects)
      exact hchanged hframe
    · obtain ⟨hframe, -⟩ := handleLine_of_otherwise (fun args h => hneither args (.inl h))
        (fun args h => hneither args (.inr h)) (not_exists.mp hdirects)
      have hsame := congrArg Session.conversation hframe
      exact hchanged hsame
  permissions hchanged := by
    by_contra hnone
    -- A line that directs no change clears or compacts, or it changes no part at all.
    have hpermissions : ∀ change, ¬ Directs s line change := not_exists.mp hnone
    by_cases hclear : ∃ args, Calls line "clear" args
    · obtain ⟨args, hcalls⟩ := hclear
      rw [handleLine_of_calls hcalls] at hchanged
      exact hchanged rfl
    · by_cases hcompact : ∃ args, Calls line "compact" args
      · obtain ⟨args, hcalls⟩ := hcompact
        rw [handleLine_compact hcalls, permissions_compact] at hchanged
        exact hchanged rfl
      · obtain ⟨hframe, -⟩ := handleLine_of_otherwise (not_exists.mp hclear)
          (not_exists.mp hcompact) hpermissions
        have hsame := congrArg Session.permissions hframe
        exact hchanged hsame
  clears args hcalls := by
    rw [handleLine_of_calls hcalls]
    rfl
  compacts args hcalls := by
    rw [handleLine_compact hcalls]
    exact s.compact_cases
  directs change := handleLine_of_directs
  trusts name hdirects := by
    rw [handleLine_of_directs hdirects]
    refine ⟨?_, Permissions.trustAll_trust _ _, fun tool => ?_⟩
    · cases hdirects with
      | trust _ _ _ hspec => exact hspec
    · exact Permissions.mem_trust.trans (or_congr_left eq_comm)
  otherwise := handleLine_of_otherwise

end Session

end ToolAgent
