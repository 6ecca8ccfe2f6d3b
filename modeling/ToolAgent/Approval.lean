import ToolAgent.Text.Basic
import ToolAgent.Text.Case

/-!
# The user's answer to a question

A tool that needs the user's consent is put to the user, who answers yes, no, or yes from now on.
-/

namespace ToolAgent

/-- What a user says to a tool that wants to run. -/
inductive Approval
  | yes
  | no
  /-- Yes, and do not ask for this tool again. -/
  | trust
deriving DecidableEq, Repr

/-- What a typed answer means: no, unless it clearly says otherwise. -/
def Approval.ofAnswer (answer : String) : Approval :=
  let word := Text.Case.lower (Text.trim answer)
  if word = "y" || word = "yes" then .yes
  else if word = "t" || word = "trust" then .trust
  else .no

end ToolAgent
