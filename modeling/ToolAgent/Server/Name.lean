import ToolAgent.Number.SipHash
import ToolAgent.Text.Snake
import ToolAgent.Text.Utf8

/-!
# Names of servers

A server's tools are offered to the model under the server's name, a delimiter and the tool's name.
So the name that a server is registered under starts with a letter, goes on with letters, digits and
underscores, and does not hold the delimiter. `ServerName.sanitize` makes such a name of any name,
and `ServerName.assign` gives each of several servers its own.
-/

namespace ToolAgent.ServerName

/-- What stands between the names of server and tool. -/
def delimiter : String := "___"

/-- Whether a name may start with this character: an ASCII letter. -/
def isLetter (c : Char) : Bool := c.isAlpha

/-- Whether a name may hold this character: an ASCII letter or digit, or an underscore. -/
def isNameChar (c : Char) : Bool := c.isAlphanum || c == '_'

/-! ### One name -/

/-- Every three underscores in a row, from the left, become one. -/
def squeeze : List Char → List Char
  | '_' :: '_' :: '_' :: rest => '_' :: squeeze rest
  | c :: rest => c :: squeeze rest
  | [] => []

theorem squeeze_eq_or_shorter (cs : List Char) :
    squeeze cs = cs ∨ (squeeze cs).length < cs.length := by
  fun_induction squeeze cs with
  | case1 rest ih =>
    refine .inr ?_
    rcases ih with h | h
    · simp [h]
    · simp only [List.length_cons]
      omega
  | case2 c rest _ ih =>
    rcases ih with h | h
    · exact .inl (by rw [h])
    · exact .inr (by simpa using h)
  | case3 => exact .inl rfl

/-- Squeezes until nothing changes. -/
def collapse (cs : List Char) : List Char :=
  if squeeze cs = cs then cs else collapse (squeeze cs)
termination_by cs.length
decreasing_by
  rcases squeeze_eq_or_shorter cs with h | h
  · contradiction
  · exact h

/-- Whether a name can be taken as it is. -/
def isValid (cs : List Char) : Bool :=
  match cs with
  | c :: rest => isLetter c && rest.all isNameChar && (Text.cut? delimiter.toList cs).isNone
  | [] => false

/-- A name made of its valid characters, from the first letter on. -/
def clean (cs : List Char) : List Char :=
  collapse ((cs.filter isNameChar).dropWhile (!isLetter ·))

/-- The digits of a number in base sixteen. -/
def hexText (n : UInt64) : List Char := Nat.toDigits 16 n.toNat

/-- The name in snake case, cleaned if need be; nothing left of it, a name with the number
`fallback`. -/
def ofSnake (snake : List Char) (fallback : UInt64) : List Char :=
  if isValid snake then snake
  else match clean snake with
    | [] => "server_".toList ++ hexText fallback
    | c :: rest => c :: rest

/-- The number that stands for a name of which nothing is left. -/
def fingerprint (name : String) : UInt64 := SipHash.hash 0 0 (Utf8.ofString name ++ [0xff])

/-- A name that a server can be registered under, given how names are put in snake case and which
number stands for each of them. -/
def sanitizeBy (snake : String → String) (number : String → UInt64) (name : String) : String :=
  String.ofList (ofSnake (snake name).toList (number name))

/-- A name that a server can be registered under. -/
def sanitize : String → String := sanitizeBy Text.Snake.ofName fingerprint

/-! ### Several names -/

/-- The names among `taken` that are at least as long as `name`. -/
def rivals (taken : List String) (name : String) : Nat :=
  (taken.filter fun t => name.length ≤ t.length).length

theorem rivals_push_le (taken : List String) (name : String) :
    rivals taken (name.push '1') ≤ rivals taken name := by
  induction taken with
  | nil => exact Nat.le_refl _
  | cons t rest ih =>
    unfold rivals at ih ⊢
    grind [String.length_push]

theorem rivals_push_lt {taken : List String} {name : String} (h : name ∈ taken) :
    rivals taken (name.push '1') < rivals taken name := by
  induction taken with
  | nil => simp at h
  | cons t rest ih =>
    have hle := rivals_push_le rest name
    unfold rivals at ih hle ⊢
    grind [String.length_push]

/-- The name, followed by as many ones as it takes to differ from all that are taken. -/
def fresh (taken : List String) (name : String) : String :=
  if h : name ∈ taken then fresh taken (name.push '1') else name
termination_by rivals taken name
decreasing_by exact rivals_push_lt h

/-- Gives each of the names a name of its own, made by `nameOf`, in order. -/
def assignFrom (nameOf : String → String) (taken : List String) :
    List String → List (String × String)
  | [] => []
  | given :: rest =>
    let name := fresh taken (nameOf given)
    (given, name) :: assignFrom nameOf (taken ++ [name]) rest

/-- Gives each of the names a name of its own, made by `nameOf`. -/
def assignBy (nameOf : String → String) (originals : List String) : List (String × String) :=
  assignFrom nameOf [] originals

/-- Gives each of the names a name of its own. -/
def assign (originals : List String) : List (String × String) := assignBy sanitize originals

end ToolAgent.ServerName
