import ToolAgent.Json.Printer
import ToolAgent.Text.Quoted
import ToolAgent.Text.Utf8

/-!
# What can be wrong with a JSON text or value

A *fault* is a cause and, for a text, the spot where it was noticed. A spot is kept as the number
of characters that were left, and bytes counted on from there; its line and column are worked out
only for the message.
-/

namespace ToolAgent.Json

/-- A place in a text: `ahead` bytes after the point with `left` characters to come. -/
structure Spot where
  left : Nat
  ahead : Nat
deriving DecidableEq, Repr, Inhabited

/-- The spot just before the characters `rest`. -/
def before (rest : List Char) : Option Spot := some ⟨rest.length, 0⟩

/-- The spot `n` bytes into the characters `rest`. -/
def into (n : Nat) (rest : List Char) : Option Spot := some ⟨rest.length, n⟩

/-- What stood where something else was expected. -/
inductive Found
  | null
  | bool (b : Bool)
  | integer (n : Int)
  | real (x : Binary)
  | string (s : String)
  | sequence
  | map
  | unitVariant
deriving DecidableEq, Repr

/-- How what was found is named. -/
def Found.text : Found → String
  | .null => "null"
  | .bool b => String.join ["boolean `", (if b then "true" else "false"), "`"]
  | .integer n => String.join ["integer `", toString n, "`"]
  | .real x => String.join ["floating point `", Binary.double.exponentText x, "`"]
  | .string s => String.join ["string ", Text.Quoted.quote s]
  | .sequence => "sequence"
  | .map => "map"
  | .unitVariant => "unit variant"

/-- Why reading failed. -/
inductive Cause
  | endOfValue
  | endOfObject
  | endOfList
  | endOfString
  | expectedValue
  | expectedIdent
  | expectedColon
  | expectedListEnd
  | expectedObjectEnd
  | keyNotString
  | trailingCharacters
  | trailingComma
  | invalidNumber
  | numberOutOfRange
  | invalidEscape
  | loneSurrogate
  | endOfHexEscape
  | controlCharacter
  | recursionLimit
  | missingField (name : String)
  | duplicateField (name : String)
  | unknownVariant (name : String) (known : List String)
  | invalidType (found : Found) (expected : String)
  | invalidValue (found : Found) (expected : String)
  | invalidLength (length : Nat) (expected : String)
deriving DecidableEq, Repr

/-- A name between grave accents. -/
def graved (name : String) : String := "`" ++ name ++ "`"

/-- The names that were possible. -/
def oneOf : List String → String
  | [] => "there are no variants"
  | [a] => "expected " ++ graved a
  | [a, b] => "expected " ++ graved a ++ " or " ++ graved b
  | names => "expected one of " ++ String.intercalate ", " (names.map graved)

/-- What is wrong, in words. -/
def Cause.message : Cause → String
  | .endOfValue => "EOF while parsing a value"
  | .endOfObject => "EOF while parsing an object"
  | .endOfList => "EOF while parsing a list"
  | .endOfString => "EOF while parsing a string"
  | .expectedValue => "expected value"
  | .expectedIdent => "expected ident"
  | .expectedColon => String.join ["expected ", graved ":"]
  | .expectedListEnd => String.join ["expected ", graved ",", " or ", graved "]"]
  | .expectedObjectEnd => String.join ["expected ", graved ",", " or ", graved "\x7d"]
  | .keyNotString => "key must be a string"
  | .trailingCharacters => "trailing characters"
  | .trailingComma => "trailing comma"
  | .invalidNumber => "invalid number"
  | .numberOutOfRange => "number out of range"
  | .invalidEscape => "invalid escape"
  | .loneSurrogate => "lone leading surrogate in hex escape"
  | .endOfHexEscape => "unexpected end of hex escape"
  | .controlCharacter => "control character (\\u0000-\\u001F) found while parsing a string"
  | .recursionLimit => "recursion limit exceeded"
  | .missingField name => String.join ["missing field ", graved name]
  | .duplicateField name => String.join ["duplicate field ", graved name]
  | .unknownVariant name known => String.join ["unknown variant ", graved name, ", ", oneOf known]
  | .invalidType found expected =>
    String.join ["invalid type: ", found.text, ", expected ", expected]
  | .invalidValue found expected =>
    String.join ["invalid value: ", found.text, ", expected ", expected]
  | .invalidLength n expected =>
    String.join ["invalid length ", toString n, ", expected ", expected]

/-- A cause and the spot where it was noticed, if there is one. -/
structure Fault where
  cause : Cause
  spot : Option Spot
deriving DecidableEq, Repr

/-- A fault of a value, which has no spots. -/
def Fault.unplaced (cause : Cause) : Fault := ⟨cause, none⟩

/-- The fault noticed at `spot`, unless it has a spot already. -/
def Fault.settle (spot : Option Spot) (f : Fault) : Fault :=
  match f.spot with
  | some _ => f
  | none => ⟨f.cause, spot⟩

/-- Line, from one, and bytes since the last line break, after the first `n` of these bytes. -/
def lineColumn (bytes : Bytes) (n : Nat) : Nat × Nat :=
  let consumed := bytes.take n
  ((consumed.filter (· == 10)).length + 1, (consumed.reverse.takeWhile (· != 10)).length)

/-- The words for a fault found in `text`. -/
def Fault.message (text : List Char) (f : Fault) : String :=
  match f.spot with
  | none => f.cause.message
  | some spot =>
    let consumed := Utf8.size (text.take (text.length - spot.left)) + spot.ahead
    let (line, column) := lineColumn (Utf8.encode text) consumed
    f.cause.message ++ " at line " ++ toString line ++ " column " ++ toString column

end ToolAgent.Json
