import ToolAgent.Session.Basic

/-!
# A batch of tool uses

The tool uses of one response are handled together. First all of them are resolved and validated;
then the approver is asked about those that need consent; and only if nobody says no are they run,
in order. A single no declines the batch as a whole: nothing runs, and trust given on the way is not
kept.
-/

namespace ToolAgent

/-- A tool use with the tool that it means, or with the result that says why it cannot run. -/
structure Candidate where
  use : ToolUse
  tool : Except ToolResult Tool

namespace Candidate

variable {τ π : Type}

/-- Resolves and validates a tool use. -/
def ofUse [Workbench τ π] (workbench : τ) (use : ToolUse) : Candidate where
  use
  tool := match (Workbench.manager workbench).resolve use with
    | .error r => .error r
    | .ok tool =>
      match Workbench.validate workbench tool with
      | .ok () => .ok tool
      | .error e => .error (.failure use.id e.message)

end Candidate

/-- The result of a tool use, and the tool if one ran. -/
structure Answered where
  tool : Option Tool
  result : ToolResult

namespace Answered

/-- The result of running a tool. -/
def ofOutcome (use : ToolUse) (tool : Tool) : Except Error Output → Answered
  | .ok output => ⟨some tool, output.toResult use.id⟩
  | .error e => ⟨some tool, .failure use.id e.message⟩

/-- The record of a tool that ran. -/
def execution? (a : Answered) : Option Execution := a.tool.map fun t => .ofResult t.name a.result

end Answered

namespace Session

variable {τ μ α π : Type} [Workbench τ π] [Approver α]

/-- Asks about the tools that need consent, except those trusted by an answer on the way: the tools
trusted by the answers, or nothing after a no. -/
def askEach (trusted : List String) :
    List Candidate → Session τ μ α → Option (List String) × Session τ μ α
  | [], s => (some trusted, s)
  | c :: rest, s =>
    match c.tool with
    | .error _ => askEach trusted rest s
    | .ok tool =>
      if !s.permissions.mustAsk tool || trusted.contains tool.name then askEach trusted rest s
      else
        match s.ask c.use (Workbench.describe s.workbench tool) with
        | (.yes, s) => askEach trusted rest s
        | (.trust, s) => askEach (trusted ++ [tool.name]) rest s
        | (.no, s) => (none, s)

/-- Runs the tools, one after the other. -/
def invokeEach : List Candidate → Session τ μ α → List Answered × Session τ μ α
  | [], s => ([], s)
  | c :: rest, s =>
    match c.tool with
    | .error r =>
      let (later, s) := invokeEach rest s
      (⟨none, r⟩ :: later, s)
    | .ok tool =>
      let (outcome, s) := s.invoke c.use tool
      let (later, s) := invokeEach rest s
      (.ofOutcome c.use tool outcome :: later, s)

/-- Handles a batch of tool uses and stages the results: which tools ran. -/
def runBatch (uses : List ToolUse) (s : Session τ μ α) : List Execution × Session τ μ α :=
  let candidates := uses.map (Candidate.ofUse s.workbench)
  match askEach [] candidates s with
  | (none, s) => ([], { s with conversation := s.conversation.abandon uses none })
  | (some trusted, s) =>
    let s := { s with permissions := trusted.foldl .trust s.permissions }
    let (answers, s) := invokeEach candidates s
    (answers.filterMap Answered.execution?,
      { s with conversation := s.conversation.addResults (answers.map (·.result)) })

end Session

end ToolAgent
