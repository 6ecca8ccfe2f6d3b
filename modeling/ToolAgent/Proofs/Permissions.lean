import Mathlib.Data.List.Induction
import ToolAgent.Permissions
import ToolAgent.Proofs.Since

/-!
# Whom trust was given to

Trust is given to single tools or to all of them, and it is taken from single tools or from all of
them. Whoever takes it from a single tool takes back the trust in all tools with it.
`isTrusted_changeAll` says which tools are trusted after any changes: it is the order of the changes
that counts, and of each kind only the last ones.
-/

namespace ToolAgent

/-- A change of the trust that the user has given. -/
inductive TrustChange
  | trust (tool : String)
  | trustEvery
  | untrust (tool : String)
  | reset
deriving DecidableEq

namespace TrustChange

/-- Whether the trust in all tools outlasts a change. -/
def KeepsEvery (change : TrustChange) : Prop := change ≠ .reset ∧ ∀ tool, change ≠ .untrust tool

/-- Whether the trust in one tool outlasts a change. -/
def Keeps (tool : String) (change : TrustChange) : Prop := change ≠ .reset ∧ change ≠ .untrust tool

/-- By these changes a tool is trusted: all tools were trusted, and since then trust was taken from
none; or this one was, and since then trust was taken neither from it nor from all tools. -/
def Trusts (changes : List TrustChange) (tool : String) : Prop :=
  Since (· = .trustEvery) KeepsEvery changes ∨ Since (· = .trust tool) (Keeps tool) changes

end TrustChange

namespace Permissions

open TrustChange (KeepsEvery Keeps Trusts)

/-- The permissions after a change. -/
def change (p : Permissions) : TrustChange → Permissions
  | .trust tool => p.trust tool
  | .trustEvery => p.trustEvery
  | .untrust tool => p.untrust tool
  | .reset => .none

/-- The permissions after several changes. -/
def changeAll (p : Permissions) (changes : List TrustChange) : Permissions :=
  changes.foldl change p

theorem changeAll_append (p : Permissions) (changes later : List TrustChange) :
    p.changeAll (changes ++ later) = (p.changeAll changes).changeAll later := List.foldl_append

theorem changeAll_map_trust (p : Permissions) (tools : List String) :
    p.changeAll (tools.map .trust) = tools.foldl .trust p := by
  rw [changeAll, List.foldl_map]
  rfl

/-! ## One change -/

theorem mem_trust {p : Permissions} {tool other : String} :
    other ∈ (p.trust tool).trusted ↔ tool = other ∨ other ∈ p.trusted := by
  rw [trust]
  split
  · next hmem =>
      refine ⟨.inr, ?_⟩
      rintro (rfl | hother)
      · exact List.contains_iff_mem.mp hmem
      · exact hother
  · rw [List.mem_append, List.mem_singleton, or_comm, eq_comm]

theorem trustAll_trust (p : Permissions) (tool : String) :
    (p.trust tool).trustAll = p.trustAll := by
  rw [trust]
  split <;> rfl

theorem trustAll_change (p : Permissions) (c : TrustChange) :
    (p.change c).trustAll = true ↔ c = .trustEvery ∨ p.trustAll = true ∧ c.KeepsEvery := by
  cases c with
  | trust tool => simp [change, trustAll_trust, KeepsEvery]
  | trustEvery => simp [change, trustEvery]
  | untrust tool => simp [change, untrust, KeepsEvery]
  | reset => simp [change, none, KeepsEvery]

theorem mem_trusted_change (p : Permissions) (c : TrustChange) (tool : String) :
    tool ∈ (p.change c).trusted ↔ c = .trust tool ∨ tool ∈ p.trusted ∧ c.Keeps tool := by
  cases c with
  | trust other => simp [change, mem_trust, Keeps]
  | trustEvery => simp [change, trustEvery, Keeps]
  | untrust other => simp [change, untrust, Keeps, @eq_comm _ other]
  | reset => simp [change, none, Keeps]

/-! ## Any changes -/

theorem trustAll_changeAll (changes : List TrustChange) :
    (none.changeAll changes).trustAll = true ↔ Since (· = .trustEvery) KeepsEvery changes := by
  induction changes using List.reverseRecOn with
  | nil => exact iff_of_false Bool.false_ne_true not_since_nil
  | append_singleton changes last ih =>
      rw [changeAll_append, since_concat, ← ih]
      exact trustAll_change _ last

theorem mem_trusted_changeAll (changes : List TrustChange) (tool : String) :
    tool ∈ (none.changeAll changes).trusted ↔ Since (· = .trust tool) (Keeps tool) changes := by
  induction changes using List.reverseRecOn with
  | nil => exact iff_of_false List.not_mem_nil not_since_nil
  | append_singleton changes last ih =>
      rw [changeAll_append, since_concat, ← ih]
      exact mem_trusted_change _ last tool

/-- **Which tools are trusted after any changes.** -/
theorem isTrusted_changeAll (changes : List TrustChange) (tool : String) :
    (none.changeAll changes).isTrusted tool = true ↔ Trusts changes tool := by
  rw [isTrusted, Bool.or_eq_true, List.contains_iff_mem, trustAll_changeAll, mem_trusted_changeAll]
  rfl

/-- What is trusted from the start was trusted at the start. -/
theorem ofList_eq_changeAll (trustAll : Bool) (tools : List String) :
    ofList trustAll tools =
      none.changeAll ((if trustAll then [.trustEvery] else []) ++ tools.map .trust) := by
  rw [changeAll_append, changeAll_map_trust]
  cases trustAll <;> rfl

end Permissions

end ToolAgent
