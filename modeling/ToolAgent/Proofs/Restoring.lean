import ToolAgent.Message.Json
import ToolAgent.Proofs.Json.Restoring
import ToolAgent.Server.Config
import ToolAgent.Turn

/-!
# Messages, executions and configurations are read back

Whatever is written as JSON is read back: messages with the tool uses and results in them,
specifications of tools, executions, and the configurations of servers (`restores_written`). The
members of a record are met in the order of their keys, so each proof below goes through them in
that order.
-/

namespace ToolAgent

open Json (Value Restores)
open Json.Read (Record Takes field_read)

/-! ## Messages -/

theorem Role.restores : Restores Role.read Role.toJson := by
  intro role
  cases role <;> rfl

theorem Status.restores : Restores Status.read Status.toJson := by
  intro status
  cases status <;> rfl

/-- A block keeps its value whatever it is, `null` not excepted. -/
theorem Block.restores : Restores Block.read Block.toJson := by
  intro block
  cases block <;> rfl

theorem ToolUse.restores : Restores ToolUse.read ToolUse.toJson := by
  intro use
  refine Record.read_object (s := ⟨some use.id, some use.name, some use.args⟩) ?_ rfl
  exact .cons rfl rfl rfl (.cons rfl rfl rfl (.cons rfl rfl rfl (.nil _)))

theorem ToolResult.restores : Restores ToolResult.read ToolResult.toJson := by
  intro result
  have hcontent := Restores.list Block.restores result.content
  have hstatus := Status.restores result.status
  refine Record.read_object
    (s := ⟨some result.useId, some result.content, some result.status⟩) ?_ rfl
  refine .cons rfl rfl (field_read hcontent) ?_
  refine .cons rfl rfl (field_read hstatus) ?_
  exact .cons rfl rfl rfl (.nil _)

/-- A specification is written with the first of the two names that its schema may have. -/
theorem ToolSpec.restores : Restores ToolSpec.read ToolSpec.toJson := by
  intro spec
  refine Record.read_object
    (s := ⟨some spec.name, some spec.description, some spec.inputSchema⟩) ?_ rfl
  exact .cons rfl rfl rfl (.cons rfl rfl rfl (.cons rfl rfl rfl (.nil _)))

/-- Empty lists are left out of a message, and a list that is missing is read as empty. -/
theorem Message.restores : Restores Message.read Message.toJson := by
  rintro ⟨role, content, uses, results⟩
  have hrole := Role.restores role
  have huses := Restores.list ToolUse.restores uses
  have hresults := Restores.list ToolResult.restores results
  let s : Draft := ⟨some role, some content, none, none⟩
  let t : Draft := if results = [] then s else { s with toolResults := some results }
  let u : Draft := if uses = [] then t else { t with toolUses := some uses }
  have hs : Takes record.fields record.start
      [("content", .string content), ("role", role.toJson)] s :=
    .cons rfl rfl rfl (.cons rfl rfl (field_read hrole) (.nil _))
  have ht : Takes record.fields s
      (if results = [] then [] else [("tool_results", .list (results.map ToolResult.toJson))]) t :=
    .leftOut fun _ => .cons rfl rfl (field_read hresults) (.nil _)
  have hnew : t.toolUses = none := by cases results <;> rfl
  have hu : Takes record.fields t
      (if uses = [] then [] else [("tool_uses", .list (uses.map ToolUse.toJson))]) u :=
    .leftOut fun _ => .cons rfl (congrArg Option.isSome hnew) (field_read huses) (.nil _)
  refine Record.read_object ((hs.append ht).append hu) ?_
  cases uses <;> cases results <;> rfl

/-! ## Executions -/

theorem Execution.restores : Restores Execution.read Execution.toJson := by
  intro e
  refine Record.read_object (s := ⟨some e.toolName, some e.useId, some e.success⟩) ?_ rfl
  exact .cons rfl rfl rfl (.cons rfl rfl rfl (.cons rfl rfl rfl (.nil _)))

/-! ## Servers -/

/-- Variables and a time limit are left out if they are not set. An empty table of variables is
written, so that it stays apart from none. -/
theorem ServerConfig.restores : Restores ServerConfig.read ServerConfig.toJson := by
  rintro ⟨command, args, env, timeoutSecs⟩
  have hargs := Restores.list Restores.string args
  let s : Draft := ⟨some command, some args, none, none⟩
  let t : Draft := { s with env := env.map some }
  let u : Draft := { t with timeoutSecs := timeoutSecs.map some }
  have hs : Takes record.fields record.start
      [("args", .list (args.map .string)), ("command", .string command)] s :=
    .cons rfl rfl (field_read hargs) (.cons rfl rfl rfl (.nil _))
  refine Record.read_object (s := u) (.append (t := t) (.append hs ?_) ?_) ?_
  · cases env with
    | none => exact .nil _
    | some env =>
        have henv := (Restores.table Restores.string).option (by simp) env
        exact .cons rfl rfl (field_read henv) (.nil _)
  · cases timeoutSecs with
    | none => exact .nil _
    | some n =>
        have hlimit := (Restores.word "u64").option (by simp [Value.ofNat]) n
        exact .cons rfl rfl (field_read hlimit) (.nil _)
  · cases env <;> cases timeoutSecs <;> rfl

theorem ServerTable.restores : Restores ServerTable.read ServerTable.toJson := by
  intro t
  have hservers := Restores.table ServerConfig.restores t
  refine Record.read_object (s := ⟨some t⟩) ?_ rfl
  exact .cons rfl rfl (field_read hservers) (.nil _)

/-- **Whatever is written is read back**, with any tool uses and results and any JSON values in
it. -/
theorem restores_written :
    Restores Message.read Message.toJson ∧ Restores ToolUse.read ToolUse.toJson ∧
      Restores ToolResult.read ToolResult.toJson ∧ Restores ToolSpec.read ToolSpec.toJson ∧
      Restores Execution.read Execution.toJson ∧
      Restores ServerConfig.read ServerConfig.toJson ∧
      Restores ServerTable.read ServerTable.toJson :=
  ⟨Message.restores, ToolUse.restores, ToolResult.restores, ToolSpec.restores, Execution.restores,
    ServerConfig.restores, ServerTable.restores⟩

end ToolAgent
