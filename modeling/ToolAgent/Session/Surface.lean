import ToolAgent.Approval
import ToolAgent.Model.Response
import ToolAgent.Tool.Toolbox

/-!
# What a session works with

A session works with three things outside itself, each with a state of its own: a workbench, where
tools run; a model, which answers requests; and an approver, who answers questions. What is done to
them is kept as a list of acts, in order.
-/

namespace ToolAgent

/-- A place where tools run. Tool uses are resolved by its manager. -/
class Workbench (τ : Type) (π : outParam Type) where
  manager : τ → Manager π
  /-- Whether a tool's arguments fit the place. -/
  validate : τ → Tool → Except Error Unit
  /-- A call in one line. -/
  describe : τ → Tool → String
  invoke : τ → Tool → Except Error Output × τ

instance [Peer π] : Workbench (Toolbox π) π where
  manager := Toolbox.manager
  validate := Toolbox.validate
  describe := Toolbox.describe
  invoke := Toolbox.invoke

/-- Someone who is asked before a tool runs. -/
class Approver (α : Type) where
  ask : α → ToolUse → String → Approval × α

/-- What a session does to the world outside. -/
inductive Act
  | sent (request : ChatRequest)
  /-- A text of the assistant was shown. -/
  | said (text : String)
  | asked (use : ToolUse) (description : String) (answer : Approval)
  | invoked (use : ToolUse) (tool : Tool) (outcome : Except Error Output)

/-! ### Two plain approvers -/

/-- Someone who gives the same answer to every question. -/
structure Unanimous where
  answer : Approval

instance : Approver Unanimous where
  ask u _ _ := (u.answer, u)

end ToolAgent
