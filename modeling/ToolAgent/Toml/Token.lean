import ToolAgent.Text.Basic
import ToolAgent.Toml.Value

/-!
# The small parts of a TOML document

Blanks, comments, keys, strings, numbers and moments. Each reader takes the characters that are
left and yields what it read and what is left then, or nothing if they do not start with what it
reads.
-/

namespace ToolAgent.Toml

/-- Reads something from the start of a text. -/
abbrev Scan (α : Type) := List Char → Option (α × List Char)

/-! ### Blanks and comments -/

/-- Whether a character separates tokens on a line. -/
def isBlank (c : Char) : Bool := c = ' ' || c = '\t'

/-- What is left after blanks. -/
def skipBlanks (cs : List Char) : List Char := cs.dropWhile isBlank

/-- Whether a character may stand in a comment. -/
def isCommentChar (c : Char) : Bool := c = '\t' || (0x20 ≤ c.toNat && c.toNat ≠ 0x7F)

/-- The end of a line. -/
def newline? : List Char → Option (List Char)
  | '\n' :: rest | '\r' :: '\n' :: rest => some rest
  | _ => none

/-- The rest of a line: blanks, perhaps a comment, and the end of the line or of the document. -/
def endLine (cs : List Char) : Option (List Char) :=
  let cs := skipBlanks cs
  let cs := match cs with
    | '#' :: rest => rest.dropWhile isCommentChar
    | cs => cs
  match cs with
  | [] => some []
  | cs => newline? cs

/-- Blanks, comments and ends of lines. -/
def skipLines : (fuel : Nat) → List Char → List Char
  | 0, cs => cs
  | fuel + 1, cs =>
    match skipBlanks cs with
    | '#' :: rest =>
      let after := rest.dropWhile isCommentChar
      match newline? after with
      | some after => skipLines fuel after
      | none => after
    | cs =>
      match newline? cs with
      | some after => skipLines fuel after
      | none => cs

/-! ### Strings -/

/-- A character by its number, if it is one. -/
def scalar? (n : Nat) : Option Char := if h : n.isValidChar then some (Char.ofNatAux n h) else none

/-- The value of a hexadecimal digit in either case. -/
def hexDigit? (c : Char) : Option Nat :=
  if c.isDigit then some (c.toNat - '0'.toNat)
  else if 'a' ≤ c ∧ c ≤ 'f' then some (c.toNat - 'a'.toNat + 10)
  else if 'A' ≤ c ∧ c ≤ 'F' then some (c.toNat - 'A'.toNat + 10)
  else none

/-- A number of exactly `count` hexadecimal digits. -/
def hexNumber : (count : Nat) → (sofar : Nat) → Scan Nat
  | 0, n, cs => some (n, cs)
  | count + 1, n, c :: cs =>
    match hexDigit? c with
    | some d => hexNumber count (n * 16 + d) cs
    | none => none
  | _ + 1, _, [] => none

/-- What follows a backslash. -/
def escape : Scan Char
  | 'b' :: cs => some ('\x08', cs)
  | 't' :: cs => some ('\t', cs)
  | 'n' :: cs => some ('\n', cs)
  | 'f' :: cs => some ('\x0c', cs)
  | 'r' :: cs => some ('\r', cs)
  | '"' :: cs => some ('"', cs)
  | '\\' :: cs => some ('\\', cs)
  | 'u' :: cs =>
    match hexNumber 4 0 cs with
    | some (n, cs) => (scalar? n).map fun c => (c, cs)
    | none => none
  | 'U' :: cs =>
    match hexNumber 8 0 cs with
    | some (n, cs) => (scalar? n).map fun c => (c, cs)
    | none => none
  | _ => none

/-- Whether a character may stand for itself in a string. -/
def isTextChar (c : Char) : Bool := isCommentChar c

/-- A string between double quotes, after the first. -/
def basicString : (fuel : Nat) → Scan (List Char)
  | 0, _ => none
  | _ + 1, '"' :: cs => some ([], cs)
  | fuel + 1, '\\' :: cs =>
    match escape cs with
    | some (c, cs) => (basicString fuel cs).map fun (s, cs) => (c :: s, cs)
    | none => none
  | fuel + 1, c :: cs =>
    if isTextChar c then (basicString fuel cs).map fun (s, cs) => (c :: s, cs) else none
  | _ + 1, [] => none

/-- A string between single quotes, after the first. -/
def literalString (cs : List Char) : Option (List Char × List Char) :=
  let s := cs.takeWhile fun c => isTextChar c && c ≠ '\''
  match cs.drop s.length with
  | '\'' :: rest => some (s, rest)
  | _ => none

/-- The quotes at the end of a string of several lines: up to two belong to the string. -/
def closingQuotes (quote : Char) (cs : List Char) : Option (List Char × List Char) :=
  let count := (cs.takeWhile (· == quote)).length
  if count < 3 then none
  else
    let own := min (count - 3) 2
    some (List.replicate own quote, cs.drop (own + 3))

/-- A string of several lines, after the three quotes; with `escapes`, a backslash has a meaning. -/
def longString (quote : Char) (escapes : Bool) : (fuel : Nat) → Scan (List Char)
  | 0, _ => none
  | _ + 1, [] => none
  | fuel + 1, c :: cs =>
    let more (c : Char) (cs : List Char) : Option (List Char × List Char) :=
      (longString quote escapes fuel cs).map fun (s, cs) => (c :: s, cs)
    if c = quote then
      match closingQuotes quote (c :: cs) with
      | some found => some found
      | none => more c cs
    else if c = '\\' && escapes then
      match escape cs with
      | some (e, cs) => more e cs
      | none =>
        -- a backslash at the end of a line takes away all blanks up to the next text
        match newline? (skipBlanks cs) with
        | some rest => longString quote escapes fuel (skipSpace fuel rest)
        | none => none
    else match newline? (c :: cs) with
      | some rest => more '\n' rest
      | none => if isTextChar c then more c cs else none
where
  /-- Blanks and ends of lines. -/
  skipSpace : (fuel : Nat) → List Char → List Char
    | 0, cs => cs
    | fuel + 1, cs =>
      match newline? (skipBlanks cs) with
      | some rest => skipSpace fuel rest
      | none => skipBlanks cs

/-- Takes away the end of a line at the start. -/
def dropNewline (cs : List Char) : List Char := (newline? cs).getD cs

/-- A string of any kind. -/
def stringToken (cs : List Char) : Option (List Char × List Char) :=
  match cs with
  | '"' :: '"' :: '"' :: rest => longString '"' true (rest.length + 1) (dropNewline rest)
  | '\'' :: '\'' :: '\'' :: rest => longString '\'' false (rest.length + 1) (dropNewline rest)
  | '"' :: rest => basicString (rest.length + 1) rest
  | '\'' :: rest => literalString rest
  | _ => none

/-! ### Keys -/

/-- Whether a character may stand in a key without quotes. -/
def isBareChar (c : Char) : Bool := c.isAlphanum || c = '-' || c = '_'

/-- One key. -/
def simpleKey (cs : List Char) : Option (List Char × List Char) :=
  match cs with
  | '"' :: rest => basicString (rest.length + 1) rest
  | '\'' :: rest => literalString rest
  | cs =>
    match cs.takeWhile isBareChar with
    | [] => none
    | key => some (key, cs.drop key.length)

/-- Keys between dots, with blanks around them. -/
def dottedKey : (fuel : Nat) → Scan (List String)
  | 0, _ => none
  | fuel + 1, cs =>
    match simpleKey (skipBlanks cs) with
    | none => none
    | some (key, rest) =>
      match skipBlanks rest with
      | '.' :: more =>
        (dottedKey fuel more).map fun (keys, cs) => (String.ofList key :: keys, cs)
      | rest => some ([String.ofList key], rest)

/-- How many keys between dots, and how many brackets in brackets, are taken. -/
def depthLimit : Nat := 80

/-- A key of one or several parts. -/
def keyToken (cs : List Char) : Option (List String × List Char) :=
  match dottedKey (cs.length + 1) cs with
  | some (keys, rest) => if keys.length < depthLimit then some (keys, rest) else none
  | none => none

/-! ### Numbers -/

/-- Digits with single underscores between them. -/
def digitRun (isDigit : Char → Bool) : Scan (List Char)
  | c :: cs => if isDigit c then some (run c cs) else none
  | [] => none
where
  /-- Digits after the digit `c`. -/
  run (c : Char) : List Char → List Char × List Char
    | '_' :: d :: cs =>
      if isDigit d then
        let (ds, rest) := run d cs
        (c :: ds, rest)
      else ([c], '_' :: d :: cs)
    | d :: cs =>
      if isDigit d then
        let (ds, rest) := run d cs
        (c :: ds, rest)
      else ([c], d :: cs)
    | [] => ([c], [])

/-- The number that digits of a base stand for. -/
def digitsValue (base : Nat) (ds : List Char) : Nat :=
  ds.foldl (fun n c => n * base + (hexDigit? c).getD 0) 0

/-- A sign, if there is one: whether it is a minus, and what follows. -/
def sign : List Char → Bool × List Char
  | '-' :: cs => (true, cs)
  | '+' :: cs => (false, cs)
  | cs => (false, cs)

/-- A whole number in decimal digits without a leading zero. -/
def wholePart (cs : List Char) : Option (List Char × List Char) :=
  match cs with
  | '0' :: rest => some (['0'], rest)
  | cs => digitRun Char.isDigit cs

/-- The exponent of a number. -/
def exponentPart (cs : List Char) : Option (Int × List Char) :=
  match cs with
  | 'e' :: rest | 'E' :: rest =>
    let (negative, rest) := sign rest
    (digitRun Char.isDigit rest).map fun (ds, rest) =>
      let n : Int := digitsValue 10 ds
      (if negative then -n else n, rest)
  | _ => none

/-- A number with a point or an exponent, or one that is none. -/
def floatToken (cs : List Char) : Option (Binary × List Char) :=
  let (negative, body) := sign cs
  match body with
  | 'i' :: 'n' :: 'f' :: rest => some (.infinite negative, rest)
  | 'n' :: 'a' :: 'n' :: rest => some (.nan, rest)
  | _ =>
    match wholePart body with
    | none => none
    | some (whole, rest) =>
      let fraction : Option (List Char × List Char) :=
        match rest with
        | '.' :: rest => digitRun Char.isDigit rest
        | _ => none
      let make (ds : List Char) (places : Nat) (exponent : Int) : Binary :=
        Binary.double.roundDecimal negative (digitsValue 10 ds) (exponent - places)
      let found : Option (Binary × List Char) :=
        match fraction with
        | some (part, rest) =>
          let digits := whole ++ part
          match exponentPart rest with
          | some (e, rest) => some (make digits part.length e, rest)
          | none => some (make digits part.length 0, rest)
        | none => (exponentPart rest).map fun (e, rest) => (make whole 0 e, rest)
      -- a number too large is refused, unless it is negative
      match found with
      | some (.infinite false, _) => none
      | found => found

/-- A whole number that fits 64 bits. -/
def integerToken (cs : List Char) : Option (Int × List Char) :=
  let based (base : Nat) (isDigit : Char → Bool) (rest : List Char) : Option (Int × List Char) :=
    match digitRun isDigit rest with
    | some (ds, rest) =>
      let n := digitsValue base ds
      if n < Nat.pow 2 63 then some (n, rest) else none
    | none => none
  match cs with
  | '0' :: 'x' :: rest => based 16 (fun c => (hexDigit? c).isSome) rest
  | '0' :: 'o' :: rest => based 8 (fun c => '0' ≤ c && c ≤ '7') rest
  | '0' :: 'b' :: rest => based 2 (fun c => c = '0' || c = '1') rest
  | cs =>
    let (negative, body) := sign cs
    match wholePart body with
    | none => none
    | some (ds, rest) =>
      let n : Int := digitsValue 10 ds
      let n := if negative then -n else n
      if -(Nat.pow 2 63 : Nat) ≤ n && n < Nat.pow 2 63 then some (n, rest) else none

/-! ### Dates and times -/

/-- A number of exactly `count` decimal digits, between two bounds. -/
def fixedNumber (count low high : Nat) (cs : List Char) : Option (Nat × List Char) :=
  let ds := cs.take count
  let n := digitsValue 10 ds
  if ds.length = count && ds.all Char.isDigit && low ≤ n && n ≤ high then some (n, cs.drop count)
  else none

/-- Whether a year has a twenty-ninth of February. -/
def isLeapYear (year : Nat) : Bool := (year % 4 = 0 && year % 100 ≠ 0) || year % 400 = 0

/-- How many days a month has. -/
def daysIn (year month : Nat) : Nat :=
  if month = 2 then (if isLeapYear year then 29 else 28)
  else if month = 4 || month = 6 || month = 9 || month = 11 then 30
  else 31

/-- A certain character. -/
def mark (c : Char) : List Char → Option (List Char)
  | d :: cs => if d = c then some cs else none
  | [] => none

/-- A date. -/
def date (cs : List Char) : Option (List Char) := do
  let (year, cs) ← fixedNumber 4 0 9999 cs
  let cs ← mark '-' cs
  let (month, cs) ← fixedNumber 2 1 12 cs
  let cs ← mark '-' cs
  let (_, cs) ← fixedNumber 2 1 (daysIn year month) cs
  return cs

/-- A time of day. -/
def time (cs : List Char) : Option (List Char) := do
  let (_, cs) ← fixedNumber 2 0 23 cs
  let cs ← mark ':' cs
  let (_, cs) ← fixedNumber 2 0 59 cs
  let cs ← mark ':' cs
  let (_, cs) ← fixedNumber 2 0 60 cs
  match cs with
  | '.' :: rest =>
    match rest.takeWhile Char.isDigit with
    | [] => return cs
    | ds => return rest.drop ds.length
  | _ => return cs

/-- The distance of a time from that of Greenwich. -/
def zone (cs : List Char) : Option (List Char) :=
  match cs with
  | 'Z' :: rest | 'z' :: rest => some rest
  | '+' :: rest | '-' :: rest => do
    let (_, rest) ← fixedNumber 2 0 23 rest
    let rest ← mark ':' rest
    let (_, rest) ← fixedNumber 2 0 59 rest
    return rest
  | _ => none

/-- A date, a time, or both. -/
def momentToken (cs : List Char) : Option (String × List Char) :=
  let taken (rest : List Char) : String × List Char :=
    (String.ofList (cs.take (cs.length - rest.length)), rest)
  match date cs with
  | some rest =>
    match rest with
    | 'T' :: more | 't' :: more | ' ' :: more =>
      match time more with
      | some more => some (taken ((zone more).getD more))
      | none => some (taken rest)
    | rest => some (taken rest)
  | none => (time cs).map taken

end ToolAgent.Toml
