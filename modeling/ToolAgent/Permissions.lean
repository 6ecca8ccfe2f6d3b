/-!
# Trusted tools

Which tools may run without a question to the user: those trusted by name, or all of them.
-/

namespace ToolAgent

/-- The trust a user has given: in single tools, or in every tool at once. -/
structure Permissions where
  trustAll : Bool
  /-- The tools trusted by name. -/
  trusted : List String
deriving DecidableEq, Repr

namespace Permissions

/-- Whether a tool may run without a question. -/
def isTrusted (p : Permissions) (tool : String) : Bool := p.trustAll || p.trusted.contains tool

/-- Trusts one tool. -/
def trust (p : Permissions) (tool : String) : Permissions :=
  if p.trusted.contains tool then p else { p with trusted := p.trusted ++ [tool] }

/-- Takes trust from one tool, and with it the trust in all tools. -/
def untrust (p : Permissions) (tool : String) : Permissions :=
  ⟨false, p.trusted.filter (· ≠ tool)⟩

/-- Trusts every tool. -/
def trustEvery (p : Permissions) : Permissions := { p with trustAll := true }

/-- Nothing trusted. -/
def none : Permissions := ⟨false, []⟩

/-- Trust in several tools, each counted once however often it is named. -/
def ofList (trustAll : Bool) (tools : List String) : Permissions :=
  tools.foldl trust ⟨trustAll, []⟩

/-- The tools trusted by name, in order of their names. -/
def names (p : Permissions) : List String := p.trusted.mergeSort (fun a b => decide (a ≤ b))

end Permissions

end ToolAgent
