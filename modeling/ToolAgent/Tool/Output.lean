import ToolAgent.Files.Path
import ToolAgent.Files.Tree
import ToolAgent.Message.Basic
import ToolAgent.Text.Utf8

/-!
# Where tools work and what they put out
-/

namespace ToolAgent

open Json (Value)

/-- Where tools work. -/
structure Workplace where
  /-- The directory that relative paths and commands start from. -/
  cwd : String
  /-- The user's home directory. -/
  home : String
  /-- How many bytes of a command's output are kept. -/
  maxOutputBytes : Nat
  /-- The directory of the program itself, where `cwd` is looked up if it is relative. -/
  base : Location
deriving Repr

/-- How much of a command's output is kept if nothing else is said. -/
def defaultMaxOutput : Nat := 102400

namespace Workplace

/-- The path that a text means here. -/
def resolve (w : Workplace) (path : String) : String := Path.resolve w.home w.cwd path

/-- A path as it is shown here. -/
def shown (w : Workplace) (path : String) : String := Path.display w.cwd (w.resolve path)

end Workplace

/-- What a tool put out. -/
inductive Output
  | text (s : String)
  | json (v : Value)
deriving DecidableEq, Repr

namespace Output

/-- The output as one text. -/
def asText : Output → String
  | text s => s
  | json v => v.text

/-- The output as a block of a result. -/
def block : Output → Block
  | text s => .text s
  | json v => .json v

/-- The result that goes back to the model. -/
def toResult (useId : String) (o : Output) : ToolResult := ⟨useId, [o.block], .success⟩

end Output

/-! ### Keeping output short -/

/-- The text before the last boundary up to byte `limit`. -/
def startWithin? (limit : Nat) (s : String) : Option String :=
  let bytes := Utf8.ofString s
  (Utf8.boundaryUpTo? bytes limit).bind (Utf8.before? bytes)

theorem isSome_startWithin? (limit : Nat) (s : String) : (startWithin? limit s).isSome := by
  obtain ⟨stop, hstop, hboundary⟩ := Utf8.exists_boundaryUpTo? (Utf8.ofString s) limit
  rw [startWithin?, hstop, Option.bind_some, Utf8.before?, if_pos hboundary, Option.isSome_some]

/-- What is put after a text that was cut. -/
def cutMark : String := "\n... (output truncated)"

/-- The text, cut to at most `limit` bytes and marked as cut if it is longer. -/
def truncate (limit : Nat) (s : String) : String :=
  if Utf8.sizeOf s ≤ limit then s
  else (startWithin? limit s).get (isSome_startWithin? limit s) ++ cutMark

end ToolAgent
