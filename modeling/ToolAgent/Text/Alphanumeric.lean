import ToolAgent.Text.AlphanumericTable

/-!
# Letters and numbers of every script
-/

namespace ToolAgent.Text

/-- Whether a character is a letter or a number. -/
def isAlphanumeric (c : Char) : Bool :=
  if c.toNat < 128 then c.isAlphanum else Case.inRanges alphanumericRanges c.toNat

end ToolAgent.Text
