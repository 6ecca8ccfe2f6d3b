import Mathlib.Data.List.Basic

/-!
# What has held since

A list tells what happened, the oldest first. `Since P Q` says of it that something with `P`
happened and that all that came after it satisfies `Q`. So it is kept up from one happening to the
next: either the new one satisfies `P`, or it satisfies `Q` and `Since` held before
(`since_concat`).
-/

namespace ToolAgent

variable {α : Type} {P Q : α → Prop}

/-- Something with `P` happened, and all that came after it satisfies `Q`. -/
def Since (P Q : α → Prop) (happened : List α) : Prop :=
  ∃ before x after, happened = before ++ x :: after ∧ P x ∧ ∀ y ∈ after, Q y

theorem not_since_nil : ¬ Since P Q [] := by
  rintro ⟨before, x, after, hsplit, -⟩
  cases before <;> cases hsplit

theorem since_concat {happened : List α} {last : α} :
    Since P Q (happened ++ [last]) ↔ P last ∨ Since P Q happened ∧ Q last := by
  constructor
  · rintro ⟨before, x, after, hsplit, hx, hafter⟩
    rcases List.eq_nil_or_concat' after with rfl | ⟨between, newest, rfl⟩
    · obtain ⟨-, hlast⟩ := List.append_inj' hsplit rfl
      obtain rfl : last = x := by simpa using hlast
      exact .inl hx
    · rw [← List.cons_append, ← List.append_assoc] at hsplit
      obtain ⟨rfl, hlast⟩ := List.append_inj' hsplit rfl
      obtain rfl : last = newest := by simpa using hlast
      refine .inr ⟨⟨before, x, between, rfl, hx, ?_⟩, hafter last (by simp)⟩
      exact fun y hy => hafter y (List.mem_append_left _ hy)
  · rintro (hlast | ⟨⟨before, x, after, rfl, hx, hafter⟩, hlast⟩)
    · exact ⟨happened, last, [], rfl, hlast, by simp⟩
    · refine ⟨before, x, after ++ [last], by simp, hx, ?_⟩
      intro y hy
      rcases List.mem_append.mp hy with hy | hy
      · exact hafter y hy
      · exact List.mem_singleton.mp hy ▸ hlast

end ToolAgent
