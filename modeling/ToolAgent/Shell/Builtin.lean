import ToolAgent.Shell.Program.Basic

/-!
# What the shell's own commands put out and decide

`echo` and `printf` make bytes of their arguments, `test` makes a decision of them, and
`splitFields` takes a line apart for `read`.
-/

namespace ToolAgent.Shell.Builtin

/-! ### Escapes -/

/-- The number that octal digits stand for. -/
def octalValue (ds : List Char) : Nat := ds.foldl (fun n d => n * 8 + (d.toNat - 48)) 0

/-- The number that hexadecimal digits stand for. -/
def hexValue (ds : List Char) : Nat :=
  ds.foldl (fun n d =>
    n * 16 + (if d.isDigit then d.toNat - 48 else d.toLower.toNat - 87)) 0

/-- Whether a character is an octal digit. -/
def isOctal (c : Char) : Bool := '0' ≤ c && c ≤ '7'

/-- Whether a character is a hexadecimal digit. -/
def isHex (c : Char) : Bool := c.isDigit || ('a' ≤ c && c ≤ 'f') || ('A' ≤ c && c ≤ 'F')

/-- What follows a backslash: the bytes it stands for and how many characters it takes, or the end
of all output. With `zeroLed`, an octal number has a zero before its three digits. -/
inductive Escape
  | bytes (bs : Bytes) (taken : Nat)
  | finish
  | plain

/-- A character given by its number; outside of ASCII, its escape. -/
def codePoint (n : Nat) : Bytes :=
  if n < 128 then [UInt8.ofNat n]
  else
    let digits := (String.ofList (Nat.toDigits 16 n)).toUpper
    let (letter, width) := if n < 0x10000 then ("u", 4) else ("U", 8)
    Utf8.ofString ("\\" ++ letter ++ Text.times (width - digits.length) "0" ++ digits)

/-- What the characters after a backslash stand for. -/
def escapeOf (zeroLed : Bool) (cs : List Char) : Escape :=
  match cs with
  | 'a' :: _ => .bytes [7] 1
  | 'b' :: _ => .bytes [8] 1
  | 'e' :: _ => .bytes [27] 1
  | 'f' :: _ => .bytes [12] 1
  | 'n' :: _ => .bytes [10] 1
  | 'r' :: _ => .bytes [13] 1
  | 't' :: _ => .bytes [9] 1
  | 'v' :: _ => .bytes [11] 1
  | '\\' :: _ => .bytes [92] 1
  | 'c' :: _ => if zeroLed then .finish else .plain
  | 'x' :: r =>
    let ds := (r.take 2).takeWhile isHex
    if ds = [] then .plain else .bytes [UInt8.ofNat (hexValue ds)] (ds.length + 1)
  | 'u' :: r =>
    let ds := (r.take 4).takeWhile isHex
    if ds = [] then .plain else .bytes (codePoint (hexValue ds)) (ds.length + 1)
  | 'U' :: r =>
    let ds := (r.take 8).takeWhile isHex
    if ds = [] then .plain else .bytes (codePoint (hexValue ds)) (ds.length + 1)
  | '"' :: _ => if zeroLed then .plain else .bytes [34] 1
  | '0' :: r =>
    if zeroLed then
      let ds := (r.take 3).takeWhile isOctal
      .bytes [UInt8.ofNat (octalValue ds)] (ds.length + 1)
    else
      let ds := (cs.take 3).takeWhile isOctal
      .bytes [UInt8.ofNat (octalValue ds)] ds.length
  | c :: _ =>
    if isOctal c && !zeroLed then
      let ds := (cs.take 3).takeWhile isOctal
      .bytes [UInt8.ofNat (octalValue ds)] ds.length
    else .plain
  | [] => .plain

/-- A text with its escapes carried out; true if all output ends there. -/
def unescape (zeroLed : Bool) : (fuel : Nat) → List Char → Bytes × Bool
  | 0, _ => ([], false)
  | _ + 1, [] => ([], false)
  | fuel + 1, '\\' :: r =>
    match escapeOf zeroLed r with
    | .bytes bs taken =>
      let (more, stop) := unescape zeroLed fuel (r.drop taken)
      (bs ++ more, stop)
    | .finish => ([], true)
    | .plain =>
      let (more, stop) := unescape zeroLed fuel r
      (92 :: more, stop)
  | fuel + 1, c :: r =>
    let (more, stop) := unescape zeroLed fuel r
    (String.utf8EncodeChar c ++ more, stop)

/-! ### echo -/

/-- Whether an argument is an option of `echo`. -/
def isEchoOption (arg : String) : Bool :=
  match arg.toList with
  | '-' :: c :: cs => (c :: cs).all fun c => c = 'n' || c = 'e' || c = 'E'
  | _ => false

/-- What `echo` puts out. -/
def echo (args : List String) : Bytes :=
  let options := args.takeWhile isEchoOption
  let letters := options.flatMap String.toList
  let words := args.drop options.length
  let text := (String.intercalate " " words).toList
  let lastMode := (letters.filter fun c => c = 'e' || c = 'E').getLast?
  let (bs, stopped) :=
    if lastMode = some 'e' then unescape true (text.length + 1) text else (Utf8.encode text, false)
  if stopped || letters.contains 'n' then bs else bs ++ [10]

/-! ### printf -/

/-- A conversion: its flags, width, precision and letter. -/
structure Conversion where
  flags : List Char
  width : Nat
  precision : Option Nat
  letter : Char

/-- A piece of a format. -/
inductive FormatPiece
  | bytes (bs : Bytes)
  | finish
  | convert (c : Conversion)
  | bad (letter : String)

/-- The pieces of a format; `fuel` bounds how many. -/
def parseFormat : (fuel : Nat) → List Char → List FormatPiece
  | 0, _ => []
  | _ + 1, [] => []
  | fuel + 1, '\\' :: r =>
    match escapeOf false r with
    | .bytes bs taken => .bytes bs :: parseFormat fuel (r.drop taken)
    | .finish => [.finish]
    | .plain => .bytes [92] :: parseFormat fuel r
  | fuel + 1, '%' :: '%' :: r => .bytes [37] :: parseFormat fuel r
  | fuel + 1, '%' :: r =>
    let flags := r.takeWhile fun c => c = '-' || c = '0' || c = '+' || c = ' ' || c = '#'
    let r := r.drop flags.length
    let width := r.takeWhile Char.isDigit
    let r := r.drop width.length
    let (precision, r) : Option Nat × List Char := match r with
      | '.' :: r =>
        let ds := r.takeWhile Char.isDigit
        (some ((String.ofList ds).toNat?.getD 0), r.drop ds.length)
      | r => (none, r)
    match r with
    | c :: r =>
      if ['s', 'd', 'i', 'u', 'x', 'X', 'o', 'c', 'b', 'q', 'f'].contains c then
        .convert ⟨flags, (String.ofList width).toNat?.getD 0, precision, c⟩ :: parseFormat fuel r
      else [.bad (String.ofList [c])]
    | [] => [.bad ""]
  | fuel + 1, c :: r => .bytes (String.utf8EncodeChar c) :: parseFormat fuel r

/-- A text of bytes brought to the width of a conversion. -/
def padTo (c : Conversion) (bs : Bytes) : Bytes :=
  let fill := c.width - bs.length
  if c.flags.contains '-' then bs ++ List.replicate fill 32
  else if c.flags.contains '0' && c.letter ≠ 's' then
    match bs with
    | 45 :: ds => 45 :: List.replicate fill 48 ++ ds
    | ds => List.replicate fill 48 ++ ds
  else List.replicate fill 32 ++ bs

/-- The number that an argument means, and whether it is one. -/
def numericArg (arg : String) : Int × Bool :=
  match arg.toList with
  | [] => (0, true)
  | ['\'', c] | ['"', c] => (c.toNat, true)
  | '0' :: 'x' :: ds => (hexValue ds, ds.all isHex)
  | cs =>
    match integer? arg with
    | some n =>
      match cs with
      | '0' :: ds => if ds.all isOctal then (octalValue ds, true) else (n, true)
      | _ => (n, true)
    | none =>
      let ds := cs.takeWhile Char.isDigit
      ((String.ofList ds).toNat?.getD 0, false)

/-- A text with backslashes before the characters that a shell would not take as they are. -/
def protect (arg : String) : String :=
  if arg = "" then "''"
  else String.ofList (arg.toList.flatMap fun c =>
    if c.isAlphanum || "%+,-./:=@_^".toList.contains c || 128 ≤ c.toNat then [c] else ['\\', c])

/-- A decimal number with some places, the nearest one, halves going to the even neighbour; and
whether the text is a number. -/
def fixedPoint (places : Nat) (arg : String) : String × Bool :=
  let (negative, cs) := match arg.toList with
    | '-' :: cs => (true, cs)
    | '+' :: cs => (false, cs)
    | cs => (false, cs)
  let whole := cs.takeWhile Char.isDigit
  let (part, rest) := match cs.drop whole.length with
    | '.' :: r => (r.takeWhile Char.isDigit, r.dropWhile Char.isDigit)
    | r => ([], r)
  let scaled := ((String.ofList (whole ++ part)).toNat?.getD 0) * Nat.pow 10 places
  let unit := Nat.pow 10 part.length
  let (q, r) := (scaled / unit, scaled % unit)
  let q := if unit < 2 * r || (unit = 2 * r && q % 2 = 1) then q + 1 else q
  let digits := toString q
  let digits := Text.times (places + 1 - digits.length) "0" ++ digits
  let cut := digits.length - places
  let text := String.ofList (digits.toList.take cut)
    ++ (if places = 0 then "" else "." ++ String.ofList (digits.toList.drop cut))
  ((if negative then "-" else "") ++ text, rest = [] && (whole ++ part ≠ [] || arg = ""))

/-- What a conversion makes of an argument; a complaint if the argument is no number. -/
def convert (c : Conversion) (arg : String) : Bytes × Option String :=
  let clip (bs : Bytes) : Bytes := match c.precision with
    | some p => bs.take p
    | none => bs
  let complaint (ok : Bool) : Option String := if ok then none else some (arg ++ ": invalid number")
  match c.letter with
  | 's' => (padTo c (clip (Utf8.ofString arg)), none)
  | 'q' => (padTo c (Utf8.ofString (protect arg)), none)
  | 'f' =>
    let (text, ok) := fixedPoint (c.precision.getD 6) arg
    (padTo c (Utf8.ofString text), complaint ok)
  | 'b' => (padTo c (clip (unescape true (arg.length + 1) arg.toList).1), none)
  | 'c' => (padTo c ((Utf8.ofString arg).take 1), none)
  | letter =>
    let (n, ok) := numericArg arg
    let word := (n % 0x10000000000000000).toNat
    let digits := match letter with
      | 'x' => String.ofList (Nat.toDigits 16 word)
      | 'X' => (String.ofList (Nat.toDigits 16 word)).toUpper
      | 'o' => String.ofList (Nat.toDigits 8 word)
      | 'u' => toString word
      | _ => (if c.flags.contains '+' && 0 ≤ n then "+" else "") ++ toString n
    let digits := match c.precision with
      | some p => Text.times (p - digits.length) "0" ++ digits
      | none => digits
    (padTo c (Utf8.ofString digits), complaint ok)

/-- One pass over a format: the bytes, the arguments left, the complaints, and whether output ends.
-/
def formatOnce : List FormatPiece → List String → Bytes × List String × List String × Bool
  | [], args => ([], args, [], false)
  | .bytes bs :: ps, args =>
    let (more, rest, complaints, stop) := formatOnce ps args
    (bs ++ more, rest, complaints, stop)
  | .finish :: _, args => ([], args, [], true)
  | .bad letter :: _, _ => ([], [], ["\x60" ++ letter ++ "': invalid format character"], true)
  | .convert c :: ps, args =>
    let (bs, complaint) := convert c (args.head?.getD "")
    let (more, rest, complaints, stop) := formatOnce ps (args.drop 1)
    (bs ++ more, rest, complaint.toList ++ complaints, stop)

/-- Whether a piece takes an argument. -/
def FormatPiece.isConversion : FormatPiece → Bool
  | .convert _ => true
  | _ => false

/-- Passes over a format as long as it takes arguments and there are some. -/
def formatAll : (fuel : Nat) → List FormatPiece → List String → Bytes × List String
  | 0, _, _ => ([], [])
  | fuel + 1, ps, args =>
    let (bs, rest, complaints, stop) := formatOnce ps args
    if stop || rest.isEmpty || !ps.any FormatPiece.isConversion then (bs, complaints)
    else
      let (more, others) := formatAll fuel ps rest
      (bs ++ more, complaints ++ others)

/-- What `printf` puts out, and its complaints. -/
def printf (format : String) (args : List String) : Bytes × List String :=
  formatAll (args.length + 1) (parseFormat (format.length + 1) format.toList) args

/-! ### test -/

/-- A condition of one or two operands; none if it is none. -/
def condition (tree : Entry) (here : Location) (args : List String) : Option Bool :=
  let entry (path : String) : Option Entry := (Files.find tree here path).toOption.map (·.2)
  let compare (a b : String) (f : Int → Int → Bool) : Option Bool := do
    return f (← integer? a) (← integer? b)
  match args with
  | [] => some false
  | [a] => some (a ≠ "")
  | [op, a] =>
    match op with
    | "-n" => some (a ≠ "")
    | "-z" => some (a = "")
    | "-e" | "-a" => some (entry a).isSome
    | "-f" => some ((entry a).any Entry.isFile)
    | "-d" => some ((entry a).any Entry.isDir)
    | "-r" | "-w" => some (entry a).isSome
    | "-x" => some ((entry a).any Entry.isDir)
    | "-s" => some ((entry a).any fun e =>
        match e with
        | .file bs => !bs.isEmpty
        | _ => true)
    | "-L" | "-h" =>
      match Files.walk tree here false a with
      | .ok (.found _ (.link _)) => some true
      | _ => some false
    | "!" => some (a = "")
    | _ => none
  | [a, op, b] =>
    match op with
    | "=" | "==" => some (a = b)
    | "!=" => some (a ≠ b)
    | "<" => some (a < b)
    | ">" => some (b < a)
    | "-eq" => compare a b (· == ·)
    | "-ne" => compare a b (· != ·)
    | "-lt" => compare a b fun x y => decide (x < y)
    | "-le" => compare a b fun x y => decide (x ≤ y)
    | "-gt" => compare a b fun x y => decide (y < x)
    | "-ge" => compare a b fun x y => decide (y ≤ x)
    | "-a" => some (a ≠ "" && b ≠ "")
    | "-o" => some (a ≠ "" || b ≠ "")
    | _ => none
  | _ => none

/-- A condition with negations, and joined by `-a` and `-o`. -/
def test (tree : Entry) (here : Location) : (fuel : Nat) → List String → Option Bool
  | 0, _ => none
  | fuel + 1, args =>
    match condition tree here args with
    | some b => some b
    | none =>
      match args.idxOf? "-o" with
      | some i => do
        return (← test tree here fuel (args.take i)) || (← test tree here fuel (args.drop (i + 1)))
      | none =>
        match args.idxOf? "-a" with
        | some i => do
          return (← test tree here fuel (args.take i))
            && (← test tree here fuel (args.drop (i + 1)))
        | none =>
          match args with
          | "!" :: rest => (test tree here fuel rest).map (!·)
          | _ => none

/-! ### read -/

/-- Whether a character separates words of a line that is read. -/
def isBlankSeparator (c : Char) : Bool := c = ' ' || c = '\t' || c = '\n'

/-- Takes a line apart into at most `count` fields; the last one takes all that is left. -/
def splitFields (separators : List Char) : (count : Nat) → List Char → List (List Char)
  | 0, _ => []
  | 1, cs =>
    let blank (c : Char) : Bool := separators.contains c && isBlankSeparator c
    [Text.dropWhileEnd blank (cs.dropWhile blank)]
  | count + 1, cs =>
    let blank (c : Char) : Bool := separators.contains c && isBlankSeparator c
    let cs := cs.dropWhile blank
    let field := cs.takeWhile (!separators.contains ·)
    let rest := (cs.drop field.length).dropWhile blank
    let rest := match rest with
      | c :: r => if separators.contains c then r else rest
      | [] => []
    field :: splitFields separators count rest

end ToolAgent.Shell.Builtin
