import ToolAgent.Number.Binary

/-!
# TOML values

What a TOML document holds: a table of tables and plain values. Dates and times are kept as they
are written.
-/

namespace ToolAgent.Toml

/-- What a key of a document can stand for. -/
inductive Value
  | string (s : String)
  | integer (n : Int)
  | float (x : Binary)
  | bool (b : Bool)
  | moment (text : String)
  | list (items : List Value)
  | table (members : List (String × Value))
deriving Repr, Inhabited

end ToolAgent.Toml
