import ToolAgent.Number.Shortest
import ToolAgent.Text.Alphanumeric
import ToolAgent.Text.Basic
import ToolAgent.Text.Utf8

/-!
# Directives for the log

A directive says how much is logged about a target (a part of the program), inside a span, where a
field has a value: `target[span\x7bfield=value\x7d]=level`. Every part may be missing.
-/

namespace ToolAgent.Log

/-- How much is logged, from nothing to everything. -/
inductive Level
  | off
  | error
  | warn
  | info
  | debug
  | trace
deriving DecidableEq, Repr, Inhabited

namespace Level

/-- How a level is written. -/
def name : Level → String
  | .off => "off"
  | .error => "error"
  | .warn => "warn"
  | .info => "info"
  | .debug => "debug"
  | .trace => "trace"

/-- The levels in the order of their numbers. -/
def all : List Level := [.off, .error, .warn, .info, .debug, .trace]

end Level

/-- The number that decimal digits stand for; nothing if there are none or others are among them. -/
def digits? (cs : List Char) : Option Nat :=
  if cs ≠ [] && cs.all Char.isDigit then
    some (cs.foldl (fun n c => n * 10 + (c.toNat - '0'.toNat)) 0)
  else none

/-- A whole number, perhaps after a plus sign. -/
def natural? : List Char → Option Nat
  | '+' :: cs => digits? cs
  | cs => digits? cs

/-- The characters of a text, ASCII letters in lower case. -/
def lowered (text : String) : List Char := text.toList.map Char.toLower

/-- A level by its name in any case, or by its number. -/
def Level.ofText? (text : String) : Option Level :=
  match natural? text.toList with
  | some n => Level.all[n]?
  | none => Level.all.find? fun level => level.name.toList = lowered text

/-- What the value of a field is compared with. -/
inductive FieldValue
  | bool (b : Bool)
  | real (x : Binary)
  | natural (n : Nat)
  | integer (n : Int)
  | pattern (text : String)
deriving DecidableEq, Repr

/-- A field, and perhaps the value that it must have. -/
structure Field where
  name : String
  value : Option FieldValue
deriving DecidableEq, Repr

/-- One rule of the filter: what it applies to, and how much of that is logged. -/
structure Directive where
  target : Option String
  span : Option String
  field : Option Field
  level : Level
deriving DecidableEq, Repr

/-! ### Values of fields -/

/-- The digits at the start, and the rest. -/
def spanDigits (cs : List Char) : List Char × List Char :=
  (cs.takeWhile Char.isDigit, cs.dropWhile Char.isDigit)

/-- An exponent at the end of a number. -/
def exponent? : List Char → Option Int
  | [] => some 0
  | e :: cs =>
    if e = 'e' || e = 'E' then
      match cs with
      | '-' :: ds => (digits? ds).map fun n => -(n : Int)
      | ds => (natural? ds).map fun n => (n : Int)
    else none

/-- A number without a sign, with a fraction and an exponent or without. -/
def magnitude? (negative : Bool) (cs : List Char) : Option Binary :=
  let word := cs.map Char.toLower
  if word = "inf".toList || word = "infinity".toList then some (.infinite negative)
  else if word = "nan".toList then some .nan
  else
    let (whole, rest) := spanDigits cs
    let (fraction, rest) := match rest with
      | '.' :: rest => spanDigits rest
      | rest => ([], rest)
    match digits? (whole ++ fraction), exponent? rest with
    | some n, some e => some (Binary.double.roundDecimal negative n (e - fraction.length))
    | _, _ => none

/-- A number with a sign or without. -/
def real? : List Char → Option Binary
  | '-' :: cs => magnitude? true cs
  | '+' :: cs => magnitude? false cs
  | cs => magnitude? false cs

/-- A negative whole number of 64 bits. -/
def integer? : List Char → Option Int
  | '-' :: cs => (digits? cs).bind fun n => if n ≤ Nat.pow 2 63 then some (-(n : Int)) else none
  | _ => none

/-- Whether a regular expression can be understood, `groups` groups being open and `operand` saying
whether something is there to repeat. -/
def wellFormed (groups : Nat) (operand inClass : Bool) : List Char → Bool
  | [] => groups = 0 && !inClass
  | '\\' :: cs =>
    match cs with
    | [] => false
    | c :: cs => !c.isDigit && wellFormed groups (operand || !inClass) inClass cs
  | c :: cs =>
    if inClass then wellFormed groups operand (c ≠ ']') cs
    else if c = '[' then
      match cs with
      | '^' :: ']' :: cs | ']' :: cs | cs => wellFormed groups true true cs
    else if c = '(' then
      match cs with
      | '?' :: ':' :: cs | cs => wellFormed (groups + 1) false false cs
    else if c = ')' then 0 < groups && wellFormed (groups - 1) true false cs
    else if c = '|' then wellFormed groups false false cs
    else if c = '*' || c = '+' || c = '?' then operand && wellFormed groups true false cs
    else c ≠ '\x7b' && wellFormed groups true false cs

/-- What a text says about a value: a truth value, a number, or a regular expression. -/
def FieldValue.ofText? (text : String) : Option FieldValue :=
  let cs := text.toList
  if text = "true" then some (.bool true)
  else if text = "false" then some (.bool false)
  else match natural? cs, integer? cs, real? cs with
    | some n, _, number => if n < Nat.pow 2 64 then some (.natural n) else number.map .real
    | none, some n, _ => some (.integer n)
    | none, none, some x => some (.real x)
    | none, none, none => if wellFormed 0 false false cs then some (.pattern text) else none

/-- A field from its text: a name, and a value after an equals sign. -/
def Field.ofText? (text : String) : Option Field :=
  match text.toList.splitOn '=' with
  | name :: value :: _ =>
    (FieldValue.ofText? (String.ofList value)).map fun v => ⟨String.ofList name, some v⟩
  | _ => some ⟨text, none⟩

/-! ### Directives -/

/-- The bytes of a text from one place to another, if they are a text. -/
def slice (text : Bytes) (first last : Nat) : Option String :=
  Utf8.toString? ((text.take last).drop first)

/-- How many bytes characters take. -/
def width (cs : List Char) : Nat := (Utf8.encode cs).length

/-- Whether a target may start with this character. -/
def startsTarget (c : Char) : Bool := c = '-' || c = ':' || c = '_' || Text.isAlphanumeric c

/-- The level at the end of a directive, from a place on; everything if it is left out. -/
def levelFrom (text : Bytes) (place : Nat) : Option Level := do
  let word ← slice text place text.length
  if word = "" then some .trace else Level.ofText? word

/-- What follows a span: nothing, or an equals sign and a level. -/
def afterSpan (text : Bytes) (place : Nat) : List Char → Option Level
  | [] => some .trace
  | '=' :: _ => levelFrom text (place + 1)
  | _ => none

/-- The rest of a directive from inside the brackets. -/
def spanFrom (text : Bytes) (target : Option String) (place : Nat) (cs : List Char) :
    Option Directive := do
  let word := cs.takeWhile fun c => c ≠ ']' && c ≠ '\x7b'
  let stop := place + width word
  let span ← slice text place stop
  match cs.drop word.length with
  | ']' :: rest => return ⟨target, some span, none, ← afterSpan text (stop + 1) rest⟩
  | '\x7b' :: rest =>
    let inner := rest.takeWhile (· ≠ '\x7d')
    let start := stop + 1
    let stop := start + width inner
    let field ← slice text start stop
    if field = "" then none
    else match rest.drop inner.length with
      | '\x7d' :: ']' :: rest =>
        return ⟨target, if span = "" then none else some span, ← Field.ofText? field,
          ← afterSpan text (stop + 2) rest⟩
      | _ => none
  | _ => none

/-- Reads a directive. The places of its parts are found without the blanks around it, and counted
from its very start. -/
def Directive.ofText? (text : String) : Option Directive :=
  let bytes := Utf8.ofString text
  let cs := Text.trimChars text.toList
  match cs with
  | [] => none
  | '[' :: rest => spanFrom bytes none 1 rest
  | c :: _ =>
    if !startsTarget c then none
    else
      let word := cs.takeWhile fun c => c ≠ '=' && c ≠ '['
      let stop := width word
      match cs.drop word.length with
      | [] =>
        match Level.ofText? text with
        | some level => some ⟨none, none, none, level⟩
        | none => some ⟨some text, none, none, .trace⟩
      | '=' :: _ => do
        return ⟨some (← slice bytes 0 stop), none, none, ← levelFrom bytes (stop + 1)⟩
      | _ :: rest => do spanFrom bytes (some (← slice bytes 0 stop)) (stop + 1) rest

/-! ### Text -/

/-- How a value is written. -/
def FieldValue.text : FieldValue → String
  | .bool b => if b then "true" else "false"
  | .real x => Binary.double.plainText x
  | .natural n => toString n
  | .integer n => toString n
  | .pattern s => s

/-- How a field is written. -/
def Field.text (f : Field) : String :=
  match f.value with
  | some v => f.name ++ "=" ++ v.text
  | none => f.name

/-- The text of a directive. -/
def Directive.text (d : Directive) : String :=
  let braced (f : Field) := "\x7b" ++ f.text ++ "\x7d"
  let place := d.target.getD "" ++
    match d.span, d.field with
    | none, none => ""
    | span, field => "[" ++ span.getD "" ++ ((field.map braced).getD "") ++ "]"
  if d.target.isNone && d.span.isNone && d.field.isNone then d.level.name
  else place ++ "=" ++ d.level.name

end ToolAgent.Log
