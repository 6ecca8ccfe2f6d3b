/-!
# What the program says it is
-/

namespace ToolAgent

/-- The name by which the program introduces itself to servers. -/
def programName : String := "wingman"

/-- The name by which the program greets its user. -/
def programTitle : String := "Wingman"

/-- The version that the program names itself by. -/
def programVersion : String := "0.1.0"

end ToolAgent
