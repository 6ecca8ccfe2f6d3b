import ToolAgent.Text.Basic

/-!
# Arithmetic of the shell

Integers of 64 bits with a sign. A name stands for its variable, and an unset variable for zero.
-/

namespace ToolAgent.Shell.Arithmetic

/-- Variables and their texts. -/
abbrev Variables := List (String × String)

/-- What an expression comes to: its value, and the variables after it. -/
structure Value where
  number : Int64
  vars : Variables

/-- Why an expression has no value. -/
inductive Fault
  | divisionByZero
  /-- A number with a digit that its base does not have. -/
  | badDigit (number : String)
  | malformed
deriving DecidableEq, Repr

/-- What a part of an expression comes to: its value and what follows it, or a fault. -/
abbrev Step := Except Fault (Value × List Char)

/-- Whether a name may hold this character. -/
def isNameChar (c : Char) : Bool := c.isAlphanum || c = '_'

/-- What is left after blanks and line ends. -/
def skip (cs : List Char) : List Char := cs.dropWhile fun c => c = ' ' || c = '\t' || c = '\n'

/-- The variables with one set. -/
def setVariable (name value : String) (vars : Variables) : Variables :=
  (name, value) :: vars.filter (·.1 ≠ name)

/-- A number with the base that its first characters give. -/
def literal (cs : List Char) : Int64 :=
  let digits (base : Nat) (ds : List Char) : Nat := ds.foldl (fun n d =>
    let v := if d.isDigit then d.toNat - 48 else d.toLower.toNat - 87
    n * base + v) 0
  match cs with
  | '0' :: 'x' :: ds | '0' :: 'X' :: ds => Int64.ofNat (digits 16 ds)
  | '0' :: ds => Int64.ofNat (digits 8 ds)
  | ds => Int64.ofNat (digits 10 ds)

/-- Whether all digits of a number belong to its base. -/
def isLiteral (cs : List Char) : Bool :=
  match cs with
  | '0' :: 'x' :: ds | '0' :: 'X' :: ds =>
    ds.all fun d => d.isDigit || ('a' ≤ d.toLower && d.toLower ≤ 'f')
  | '0' :: ds => ds.all fun d => '0' ≤ d && d ≤ '7'
  | ds => ds.all Char.isDigit

/-- The text of a variable as a number. -/
def numberOf (s : String) : Int64 :=
  match skip s.toList with
  | '-' :: ds => if ds.all Char.isAlphanum then -literal ds else 0
  | ds => if ds.all Char.isDigit then literal ds else 0

/-- A truth value as a number. -/
def ofBool (b : Bool) : Int64 := if b then 1 else 0

/-- A power with a natural exponent, in 64 bits. -/
def power (a : Int64) : Nat → Int64
  | 0 => 1
  | n + 1 => a * power a n

/-- The two-sided operator at the start of a text, with its rank. -/
def operator? (cs : List Char) : Option (String × Nat × List Char) :=
  match cs with
  | '|' :: '|' :: r => some ("||", 1, r)
  | '&' :: '&' :: r => some ("&&", 2, r)
  | '=' :: '=' :: r => some ("==", 6, r)
  | '!' :: '=' :: r => some ("!=", 6, r)
  | '<' :: '<' :: r => some ("<<", 8, r)
  | '>' :: '>' :: r => some (">>", 8, r)
  | '<' :: '=' :: r => some ("<=", 7, r)
  | '>' :: '=' :: r => some (">=", 7, r)
  | '*' :: '*' :: r => some ("**", 11, r)
  | '|' :: r => some ("|", 3, r)
  | '^' :: r => some ("^", 4, r)
  | '&' :: r => some ("&", 5, r)
  | '<' :: r => some ("<", 7, r)
  | '>' :: r => some (">", 7, r)
  | '+' :: r => some ("+", 9, r)
  | '-' :: r => some ("-", 9, r)
  | '*' :: r => some ("*", 10, r)
  | '/' :: r => some ("/", 10, r)
  | '%' :: r => some ("%", 10, r)
  | _ => none

/-- What an operator makes of two numbers. -/
def apply (op : String) (a b : Int64) : Except Fault Int64 :=
  match op with
  | "||" => .ok (ofBool (a ≠ 0 || b ≠ 0))
  | "&&" => .ok (ofBool (a ≠ 0 && b ≠ 0))
  | "==" => .ok (ofBool (a == b))
  | "!=" => .ok (ofBool (a != b))
  | "<" => .ok (ofBool (a < b))
  | ">" => .ok (ofBool (b < a))
  | "<=" => .ok (ofBool (a ≤ b))
  | ">=" => .ok (ofBool (b ≤ a))
  | "<<" => .ok (a <<< b)
  | ">>" => .ok (a >>> b)
  | "|" => .ok (a ||| b)
  | "^" => .ok (a ^^^ b)
  | "&" => .ok (a &&& b)
  | "+" => .ok (a + b)
  | "-" => .ok (a - b)
  | "*" => .ok (a * b)
  | "**" => if b < 0 then .error .malformed else .ok (power a (min b.toInt.toNat 64))
  | "/" => if b = 0 then .error .divisionByZero else .ok (a / b)
  | "%" => if b = 0 then .error .divisionByZero else .ok (a % b)
  | _ => .error .malformed

mutual

/-- An expression: an assignment, a choice, or operators. -/
def expression (fuel : Nat) (vars : Variables) (cs : List Char) : Step :=
  match fuel with
  | 0 => .error .malformed
  | fuel + 1 =>
    let cs := skip cs
    let name := cs.takeWhile isNameChar
    let afterName := skip (cs.drop name.length)
    let target := String.ofList name
    let isName := name ≠ [] && !(name.head?.any Char.isDigit)
    let assign (op : Option String) (r : List Char) : Step :=
      match expression fuel vars r with
      | .error e => .error e
      | .ok (v, r) =>
        let old := numberOf ((v.vars.lookup target).getD "")
        let new : Except Fault Int64 := match op with
          | none => .ok v.number
          | some op => apply op old v.number
        match new with
        | .error e => .error e
        | .ok n => .ok (⟨n, setVariable target (toString n.toInt) v.vars⟩, r)
    match isName, afterName with
    | true, '=' :: '=' :: _ => choice fuel vars cs
    | true, '=' :: r => assign none r
    | true, '+' :: '=' :: r => assign (some "+") r
    | true, '-' :: '=' :: r => assign (some "-") r
    | true, '*' :: '=' :: r => assign (some "*") r
    | true, '/' :: '=' :: r => assign (some "/") r
    | true, '%' :: '=' :: r => assign (some "%") r
    | _, _ => choice fuel vars cs

/-- A condition with two outcomes, or operators. -/
def choice (fuel : Nat) (vars : Variables) (cs : List Char) : Step :=
  match fuel with
  | 0 => .error .malformed
  | fuel + 1 =>
    match operators fuel 1 vars cs with
    | .error e => .error e
    | .ok (v, r) =>
      match skip r with
      | '?' :: r =>
        match expression fuel v.vars r with
        | .error e => .error e
        | .ok (a, r) =>
          match skip r with
          | ':' :: r =>
            match expression fuel a.vars r with
            | .error e => .error e
            | .ok (b, r) => .ok (⟨if v.number ≠ 0 then a.number else b.number, b.vars⟩, r)
          | _ => .error .malformed
      | r => .ok (v, r)

/-- Operators of at least the rank `low`. -/
def operators (fuel low : Nat) (vars : Variables) (cs : List Char) : Step :=
  match fuel with
  | 0 => .error .malformed
  | fuel + 1 =>
    match operand fuel vars cs with
    | .error e => .error e
    | .ok (v, r) => operatorsFrom fuel low v r

/-- Operators after a value. -/
def operatorsFrom (fuel low : Nat) (v : Value) (cs : List Char) : Step :=
  match fuel with
  | 0 => .error .malformed
  | fuel + 1 =>
    let cs := skip cs
    match operator? cs with
    | some (op, rank, r) =>
      if rank < low then .ok (v, cs)
      -- powers group from the right, all else from the left
      else match operators fuel (if op = "**" then rank else rank + 1) v.vars r with
        | .error e => .error e
        | .ok (w, r) =>
          match apply op v.number w.number with
          | .error e => .error e
          | .ok n => operatorsFrom fuel low ⟨n, w.vars⟩ r
    | none => .ok (v, cs)

/-- A number, a name, brackets, or an operand with a sign. -/
def operand (fuel : Nat) (vars : Variables) (cs : List Char) : Step :=
  match fuel with
  | 0 => .error .malformed
  | fuel + 1 =>
    let signed (f : Int64 → Int64) (r : List Char) : Step :=
      match operand fuel vars r with
      | .error e => .error e
      | .ok (v, r) => .ok (⟨f v.number, v.vars⟩, r)
    match skip cs with
    | '(' :: r =>
      match expression fuel vars r with
      | .error e => .error e
      | .ok (v, r) =>
        match skip r with
        | ')' :: r => .ok (v, r)
        | _ => .error .malformed
    | '-' :: r => signed (fun n => -n) r
    | '+' :: r => signed id r
    | '!' :: r => signed (fun n => ofBool (n == 0)) r
    | '~' :: r => signed (fun n => ~~~n) r
    | c :: r =>
      let word := (c :: r).takeWhile isNameChar
      let rest := (c :: r).drop word.length
      if word = [] then .error .malformed
      else if c.isDigit then
        if isLiteral word then .ok (⟨literal word, vars⟩, rest)
        else .error (.badDigit (String.ofList word))
      else
        let name := String.ofList word
        let n := numberOf ((vars.lookup name).getD "")
        match rest with
        | '+' :: '+' :: rest => .ok (⟨n, setVariable name (toString (n + 1).toInt) vars⟩, rest)
        | '-' :: '-' :: rest => .ok (⟨n, setVariable name (toString (n - 1).toInt) vars⟩, rest)
        | _ => .ok (⟨n, vars⟩, rest)
    | [] => .error .malformed

end

/-- The value of the last of several expressions with commas between them. -/
def expressions : (fuel : Nat) → Variables → List Char → Except Fault Value
  | 0, _, _ => .error .malformed
  | fuel + 1, vars, cs =>
    match expression (4 * cs.length + 8) vars cs with
    | .error e => .error e
    | .ok (v, r) =>
      match skip r with
      | [] => .ok v
      | ',' :: r => expressions fuel v.vars r
      | _ => .error .malformed

/-- The value of a text; nothing at all is zero. -/
def evaluate (vars : Variables) (cs : List Char) : Except Fault Value :=
  if skip cs = [] then .ok ⟨0, vars⟩ else expressions (cs.length + 1) vars cs

end ToolAgent.Shell.Arithmetic
