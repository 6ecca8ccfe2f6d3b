import ToolAgent.Server.Manager

/-!
# Tools at work

A toolbox is what tools act on: the file tree, seen from a place in it, and the servers.
-/

namespace ToolAgent

/-- The file tree, the place in it where paths start, and the servers. -/
structure Toolbox (π : Type) where
  place : Workplace
  tree : Entry
  manager : Manager π

namespace Toolbox

variable {π : Type}

/-- The tool that a tool use asks for, or the result that says why there is none. -/
def resolve (b : Toolbox π) (use : ToolUse) : Except ToolResult Tool := b.manager.resolve use

/-- Whether a tool can be run as it is asked for. -/
def validate (b : Toolbox π) (t : Tool) : Except Error Unit := t.validate b.place b.tree

/-- What a tool is about to do, in words. -/
def describe (b : Toolbox π) (t : Tool) : String := t.describe b.place

/-- Runs a tool: what came of it, and the toolbox after it. -/
def invoke [Peer π] (b : Toolbox π) : Tool → Except Error Output × Toolbox π
  | .read r => (r.run b.place b.tree, b)
  | .write w =>
    let (outcome, tree) := w.run b.place b.tree
    (outcome, { b with tree := tree })
  | .command c =>
    let (outcome, tree) := c.run b.place b.tree
    (outcome, { b with tree := tree })
  | .server c =>
    let (outcome, manager) := b.manager.call c
    (outcome, { b with manager := manager })

end Toolbox

end ToolAgent
