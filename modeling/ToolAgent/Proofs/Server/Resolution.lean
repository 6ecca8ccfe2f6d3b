import ToolAgent.Server.Manager

/-!
# What a tool use resolves to

A tool goes by the name that the model used for it, and a refusal answers the tool use that it is
about: whatever comes of resolving, it cannot be taken for something else. `resolve_cases` says so
for every tool use; the two statements after it are its halves.
-/

namespace ToolAgent.Manager

variable {π : Type}

/-- A tool use of the program's own tool gives that tool, or is refused. -/
theorem builtIn_cases {α : Type} (use : ToolUse) (make : α → Tool) (read : Except Json.Fault α) :
    (∃ reason, builtIn use make read = .error (refuse use reason)) ∨
      ∃ a, builtIn use make read = .ok (make a) := by
  cases read with
  | ok a => exact .inr ⟨a, rfl⟩
  | error fault => exact .inl ⟨_, rfl⟩

/-- A tool use of a server's tool gives a call by its full name, or fails. -/
theorem resolveServerTool_cases (m : Manager π) (use : ToolUse) :
    (∃ text, m.resolveServerTool use = .error (.failure use.id text)) ∨
      ∃ call : ServerCall, m.resolveServerTool use = .ok (.server call) ∧
        call.fullName = use.name := by
  unfold resolveServerTool
  split
  · exact .inl ⟨_, rfl⟩
  · split
    · exact .inl ⟨_, rfl⟩
    · dsimp only
      cases m.specs.get? use.name with
      | none => exact .inr ⟨_, if_neg (not_not_intro rfl), rfl⟩
      | some spec =>
          dsimp only
          split
          · exact .inl ⟨_, rfl⟩
          · exact .inr ⟨_, rfl, rfl⟩

/-- **A tool use gives a tool that goes by the name that the model used, or a failure that answers
it.** -/
theorem resolve_cases (m : Manager π) (use : ToolUse) :
    (∃ text, m.resolve use = .error (.failure use.id text)) ∨
      ∃ tool, m.resolve use = .ok tool ∧ tool.name = use.name := by
  unfold resolve
  split
  · next hname =>
      rcases builtIn_cases use .read (FileRead.ofArgs use.args) with ⟨_, h⟩ | ⟨_, h⟩
      · exact .inl ⟨_, h⟩
      · exact .inr ⟨_, h, hname.symm⟩
  · split
    · next hname =>
        rcases builtIn_cases use .write (FileWrite.ofArgs use.args) with ⟨_, h⟩ | ⟨_, h⟩
        · exact .inl ⟨_, h⟩
        · exact .inr ⟨_, h, hname.symm⟩
    · split
      · next hname =>
          rcases builtIn_cases use .command (CommandLine.ofArgs use.args) with ⟨_, h⟩ | ⟨_, h⟩
          · exact .inl ⟨_, h⟩
          · exact .inr ⟨_, h, hname.symm⟩
      · rcases resolveServerTool_cases m use with h | ⟨call, h, hname⟩
        · exact .inl h
        · exact .inr ⟨_, h, hname⟩

theorem name_of_resolve {m : Manager π} {use : ToolUse} {tool : Tool}
    (h : m.resolve use = .ok tool) : tool.name = use.name := by
  rcases resolve_cases m use with ⟨_, hfail⟩ | ⟨_, hok, hname⟩
  · rw [hfail] at h; cases h
  · rw [hok] at h
    exact Except.ok.inj h ▸ hname

theorem useId_of_resolve {m : Manager π} {use : ToolUse} {r : ToolResult}
    (h : m.resolve use = .error r) : r.useId = use.id := by
  rcases resolve_cases m use with ⟨_, hfail⟩ | ⟨_, hok, -⟩
  · rw [hfail] at h
    exact Except.error.inj h ▸ rfl
  · rw [hok] at h; cases h

end ToolAgent.Manager
