import ToolAgent.Json.Node

/-!
# Reading JSON text

`scan` makes a node of a text. Strings and numbers come in two strengths: strict, when their value
is wanted, and lenient, when they are only passed over. A number takes the digits of its text as an
integer of 64 bits as long as they fit, and scales the result by a power of ten in one step.
-/

namespace ToolAgent.Json

/-- The characters that may stand between the parts of a text. -/
def isSpace (c : Char) : Bool := c = ' ' || c = '\n' || c = '\t' || c = '\r'

/-- What is left after space. -/
def skipSpace (cs : List Char) : List Char := cs.dropWhile isSpace

/-! ### Strings -/

/-- The value of a hexadecimal digit in either case. -/
def hexDigit? (c : Char) : Option Nat :=
  if '0' ≤ c && c ≤ '9' then some (c.toNat - '0'.toNat)
  else if 'a' ≤ c && c ≤ 'f' then some (c.toNat - 'a'.toNat + 10)
  else if 'A' ≤ c && c ≤ 'F' then some (c.toNat - 'A'.toNat + 10)
  else none

/-- The number that the first four characters write. -/
def hexQuad (cs : List Char) : Except Fault Nat :=
  match cs.take 4 |>.mapM hexDigit? with
  | some [a, b, c, d] => .ok (((a * 16 + b) * 16 + c) * 16 + d)
  | _ =>
    if 4 ≤ Utf8.size (cs.take 4) then .error ⟨.invalidEscape, into 4 cs⟩
    else .error ⟨.endOfString, before []⟩

/-- Whether a code unit is the first of a pair. -/
def isHighSurrogate (n : Nat) : Bool := 0xD800 ≤ n && n ≤ 0xDBFF

/-- Whether a code unit is the second of a pair. -/
def isLowSurrogate (n : Nat) : Bool := 0xDC00 ≤ n && n ≤ 0xDFFF

/-- The character escaped by what follows `\u`, and how many characters that takes. -/
def hexEscape (strict : Bool) (cs : List Char) : Except Fault (Char × Nat) := do
  let n ← hexQuad cs
  if !strict then return ('\uFFFD', 4)
  if isLowSurrogate n then throw ⟨.loneSurrogate, before (cs.drop 4)⟩
  if !isHighSurrogate n then return (Char.ofNat n, 4)
  match cs.drop 4 with
  | [] | ['\\'] => throw ⟨.endOfString, before []⟩
  | '\\' :: 'u' :: rest =>
    let m ← hexQuad rest
    if !isLowSurrogate m then throw ⟨.loneSurrogate, before (rest.drop 4)⟩
    return (Char.ofNat ((n - 0xD800) * 1024 + (m - 0xDC00) + 0x10000), 10)
  | '\\' :: rest => throw ⟨.endOfHexEscape, into 1 rest⟩
  | rest => throw ⟨.endOfHexEscape, into 1 rest⟩

/-- The character escaped by what follows a backslash, and how many characters that takes. -/
def escape (strict : Bool) : List Char → Except Fault (Char × Nat)
  | [] => .error ⟨.endOfString, before []⟩
  | 'u' :: rest => (hexEscape strict rest).map fun (c, n) => (c, n + 1)
  | '"' :: _ => .ok ('"', 1)
  | '\\' :: _ => .ok ('\\', 1)
  | '/' :: _ => .ok ('/', 1)
  | 'b' :: _ => .ok ('\x08', 1)
  | 'f' :: _ => .ok ('\x0c', 1)
  | 'n' :: _ => .ok ('\n', 1)
  | 'r' :: _ => .ok ('\r', 1)
  | 't' :: _ => .ok ('\t', 1)
  | rest => .error ⟨.invalidEscape, into 1 rest⟩

/-- The rest of a string whose characters so far are `seen`, the last first: all its characters, and
what follows the closing quote. -/
def scanString (strict : Bool) (seen : List Char) (cs : List Char) :
    Except Fault (List Char × List Char) :=
  match cs with
  | [] => .error ⟨.endOfString, before []⟩
  | c :: rest =>
    if c = '"' then .ok (seen.reverse, rest)
    else if c = '\\' then
      match escape strict rest with
      | .ok (e, n) => scanString strict (e :: seen) (rest.drop n)
      | .error f => .error f
    else if c.toNat < 0x20 then
      .error ⟨.controlCharacter, if strict then before rest else before cs⟩
    else scanString strict (c :: seen) rest
termination_by cs.length
decreasing_by all_goals simp only [List.length_cons, List.length_drop]; omega

/-! ### Numbers -/

/-- Whether a character is an ASCII digit. -/
def isDigit (c : Char) : Bool := '0' ≤ c && c ≤ '9'

/-- The value of a decimal digit. -/
def digitValue (c : Char) : Nat := c.toNat - '0'.toNat

/-- Takes digits into `n` as long as the result is at most `limit`; the rest is what is left. -/
def pushDigits (limit : Nat) (n : Nat) : List Char → Nat × List Char
  | [] => (n, [])
  | d :: ds =>
    let m := n * 10 + digitValue d
    if limit < m then (n, d :: ds) else pushDigits limit m ds

/-- The largest integer of 64 bits without a sign. -/
def maxWord : Nat := Nat.pow 2 64 - 1

/-- The power of ten as a number of 64 bits. -/
def powerOfTen (n : Nat) : Binary := Binary.double.roundDecimal false 1 n

/-- `± significand · 10 ^ power`, scaled in one step or, below the smallest power, in several; none
when it is too large. -/
def scaled (negative : Bool) (significand : Nat) (power : Int) : Option Binary :=
  let f := Binary.double.round negative significand 1
  if significand = 0 then some f
  else if 308 < power then none
  else if 0 ≤ power then
    match Binary.double.mul f (powerOfTen power.toNat) with
    | .infinite _ => none
    | x => some x
  else
    let steps := ((-power).toNat - 1) / 308
    let shrunk := if 3 < steps then Binary.finite negative 0 Binary.double.lowest else
      (List.range steps).foldl (fun x _ => Binary.double.div x (powerOfTen 308)) f
    some (Binary.double.div shrunk (powerOfTen ((-power).toNat - 308 * steps)))

/-- A number without fraction and exponent. -/
def wholeNumber (negative : Bool) (n : Nat) : Number :=
  if !negative then .int n
  else if n = 0 || Nat.pow 2 63 < n then .real (Binary.double.round true n 1)
  else .int (-n)

/-- The largest exponent that is counted. -/
def maxExponent : Nat := Nat.pow 2 31 - 1

/-- What `e` stands for, read after the letter: the exponent with its sign, and what follows it. An
exponent too large to count is `none` in the place of a number, with what follows the digit that
made it so. -/
def scanExponent (ending : Cause) (cs : List Char) :
    Except Fault (Bool × Option Nat × List Char × List Char) :=
  let (negative, cs) := match cs with
    | '+' :: r => (false, r)
    | '-' :: r => (true, r)
    | r => (false, r)
  match cs with
  | [] => .error ⟨ending, before []⟩
  | c :: _ =>
    if !isDigit c then .error ⟨.invalidNumber, into 1 cs⟩
    else
      let rest := cs.dropWhile isDigit
      match pushDigits maxExponent 0 (cs.takeWhile isDigit) with
      | (n, []) => .ok (negative, some n, rest, rest)
      | (_, left) => .ok (negative, none, left.drop 1 ++ rest, rest)

/-- A number, read from its sign or first digit, and what follows it. -/
def scanNumber (strict : Bool) (cs : List Char) : Except Fault (Number × List Char) := do
  let ending : Cause := if strict then .endOfValue else .invalidNumber
  let (negative, cs) := match cs with
    | '-' :: r => (true, r)
    | r => (false, r)
  let digits := cs.takeWhile isDigit
  match cs with
  | [] => throw ⟨ending, before []⟩
  | c :: r => do
    if !isDigit c then throw ⟨.invalidNumber, into 1 cs⟩
    if c = '0' && (r.takeWhile isDigit) ≠ [] then throw ⟨.invalidNumber, into 1 r⟩
  let rest := cs.dropWhile isDigit
  let (significand, unused) := pushDigits maxWord 0 digits
  let finish (significand : Nat) (power : Int) (rest : List Char) :
      Except Fault (Number × List Char) :=
    match scaled negative significand power with
    | some x => .ok (.real x, rest)
    | none =>
      if strict then .error ⟨.numberOutOfRange, before rest⟩
      else .ok (.real (.infinite negative), rest)
  let withExponent (significand : Nat) (power : Int) (rest : List Char) :
      Except Fault (Number × List Char) := do
    let (down, exponent, noticed, rest) ← scanExponent ending rest
    match exponent with
    | some e => finish significand (if down then power - e else power + e) rest
    | none =>
      if strict && significand ≠ 0 && !down then throw ⟨.numberOutOfRange, before noticed⟩
      return (.real (.finite negative 0 Binary.double.lowest), rest)
  match rest with
  | '.' :: r => do
    let places := r.takeWhile isDigit
    let rest := r.dropWhile isDigit
    if places = [] then throw ⟨if rest = [] then ending else .invalidNumber, into 1 rest⟩
    let (significand', dropped) := pushDigits maxWord significand places
    let power : Int := (unused.length : Int) - (places.length - dropped.length : Nat)
    match rest with
    | 'e' :: r | 'E' :: r => withExponent significand' power r
    | _ => finish significand' power rest
  | 'e' :: r | 'E' :: r => withExponent significand unused.length r
  | _ =>
    if unused = [] then return (wholeNumber negative significand, rest)
    else finish significand unused.length rest

/-! ### Values -/

/-- What was made out of the start of a text of `n` characters: a node, and the rest unless the text
ends in a gap. -/
structure Part (α : Type) (n : Nat) where
  made : α
  rest : Option { r : List Char // r.length < n }

/-- A part that nothing can follow. -/
def Part.stop (made : α) : Part α n := ⟨made, none⟩

/-- The part `made` followed by `r`, if `r` is shorter than the text. -/
def Part.upTo (made : α) (r : List Char) : Part α n :=
  if h : r.length < n then ⟨made, some ⟨r, h⟩⟩ else ⟨made, none⟩

/-- The same part of a longer text. -/
def Part.within {α : Type} {n m : Nat} (h : n ≤ m) (p : Part α n) : Part α m :=
  ⟨p.made, p.rest.map fun ⟨r, hr⟩ => ⟨r, Nat.lt_of_lt_of_le hr h⟩⟩

/-- One of the words `null`, `true`, `false` that begins at `start`, read after its first letter. -/
def scanWord (start : Option Spot) (made : Span → Node) (word cs : List Char) : Part Node n :=
  match word, cs with
  | [], r => .upTo (made ⟨start, before r⟩) r
  | _ :: _, [] =>
    let f : Fault := ⟨.endOfValue, before []⟩
    .stop (.gap ⟨f, some f, start⟩)
  | w :: word, c :: r =>
    if w = c then scanWord start made word r
    else
      let f : Fault := ⟨.expectedIdent, into 1 (c :: r)⟩
      .stop (.gap ⟨f, some f, start⟩)

/-- A string that begins at `start`, read after its opening quote. -/
def scanStringNode (start : Option Spot) (cs : List Char) : Part Node n :=
  match scanString true [] cs with
  | .ok (s, r) => .upTo (.string (String.ofList s) ⟨start, before r⟩) r
  | .error f =>
    match scanString false [] cs with
    | .ok (_, r) => .upTo (.gap ⟨f, none, none⟩) r
    | .error g => .stop (.gap ⟨f, some g, none⟩)

/-- A number, read from its first character. -/
def scanNumberNode (cs : List Char) : Part Node n :=
  match scanNumber true cs with
  | .ok (x, r) => .upTo (.number x ⟨before cs, before r⟩) r
  | .error f =>
    match scanNumber false cs with
    | .ok (_, r) => .upTo (.gap ⟨f, none, before cs⟩) r
    | .error g => .stop (.gap ⟨f, some g, before cs⟩)

/-- Where an attempt to close a list comes to. -/
def closeList (rest : List Char) : Option Spot :=
  match skipSpace rest with
  | ']' :: r => before r
  | ',' :: r => before (skipSpace r)
  | r => before r

/-- Where an attempt to close an object comes to. -/
def closeObject (rest : List Char) : Option Spot :=
  match skipSpace rest with
  | '\x7d' :: r => before r
  | r => before r

/-- The key of a member, read after its opening quote, and what follows it. -/
def scanKey (cs : List Char) : Key × List Char :=
  match scanString true [] cs with
  | .ok (s, r) => (⟨String.ofList s, none, before r, closeObject r⟩, r)
  | .error f =>
    match scanString false [] cs with
    | .ok (s, r) => (⟨String.ofList s, some ⟨f, none, none⟩, before r, closeObject r⟩, r)
    | .error g => (⟨"", some ⟨f, some g, none⟩, none, none⟩, [])

/-- How many brackets may enclose each other. -/
def depthLimit : Nat := 128

theorem length_skipSpace_le (cs : List Char) : (skipSpace cs).length ≤ cs.length :=
  (List.dropWhile_sublist _).length_le

mutual

/-- The value at the start of a text, inside `depth` brackets. -/
def scanValue (depth : Nat) (cs : List Char) : Part Node cs.length :=
  have hs := length_skipSpace_le cs
  match h : skipSpace cs with
  | [] => .stop (.gap (.ofFault ⟨.endOfValue, before []⟩))
  | c :: r =>
    have hr : r.length < cs.length := by rw [h, List.length_cons] at hs; omega
    if c = 'n' then scanWord (before (c :: r)) .null ['u', 'l', 'l'] r
    else if c = 't' then scanWord (before (c :: r)) (.bool true) ['r', 'u', 'e'] r
    else if c = 'f' then scanWord (before (c :: r)) (.bool false) ['a', 'l', 's', 'e'] r
    else if c = '"' then scanStringNode (before (c :: r)) r
    else if c = '-' || isDigit c then scanNumberNode (c :: r)
    else if c = '[' then
      let p := scanItems (depth + 1) true r
      ⟨.list (before (c :: r)) (depthLimit ≤ depth + 1) p.made, (p.within (Nat.le_of_lt hr)).rest⟩
    else if c = '\x7b' then
      let p := scanMembers (depth + 1) true r
      ⟨.object (before (c :: r)) (depthLimit ≤ depth + 1) p.made, (p.within (Nat.le_of_lt hr)).rest⟩
    else .stop (.gap (.ofFault ⟨.expectedValue, into 1 (c :: r)⟩))
termination_by 3 * cs.length
decreasing_by all_goals omega

/-- The items of a list, read after the opening bracket or after an item. -/
def scanItems (depth : Nat) (first : Bool) (cs : List Char) : Part Items cs.length :=
  have hs := length_skipSpace_le cs
  match h : skipSpace cs with
  | [] => .stop (.gap (.ofFault ⟨.endOfList, before []⟩))
  | c :: r =>
    have hr : r.length < cs.length := by rw [h, List.length_cons] at hs; omega
    if c = ']' then .upTo (.done (before r)) r
    else if first then
      (scanItem depth (c :: r)).within (by rw [h] at hs; exact hs)
    else if c = ',' then
      match skipSpace r with
      | [] => .stop (.gap (.ofFault ⟨.endOfValue, before []⟩))
      | ']' :: r' =>
        .stop (.gap
          ⟨⟨.trailingComma, into 1 (']' :: r')⟩, some ⟨.expectedValue, into 1 (']' :: r')⟩, none⟩)
      | _ => (scanItem depth r).within (Nat.le_of_lt hr)
    else .stop (.gap (.ofFault ⟨.expectedListEnd, into 1 (c :: r)⟩))
termination_by 3 * cs.length + 2
decreasing_by
  · rw [h] at hs; simp only [List.length_cons] at hs ⊢; omega
  · omega

/-- An item and those after it. -/
def scanItem (depth : Nat) (cs : List Char) : Part Items cs.length :=
  let p := scanValue depth cs
  match p.rest with
  | none => .stop (.item p.made none (.done none))
  | some ⟨r, hr⟩ =>
    let q := scanItems depth false r
    ⟨.item p.made (closeList r) q.made, (q.within (Nat.le_of_lt hr)).rest⟩
termination_by 3 * cs.length + 1

/-- The members of an object, read after the opening brace or after a member. -/
def scanMembers (depth : Nat) (first : Bool) (cs : List Char) : Part Members cs.length :=
  have hs := length_skipSpace_le cs
  match h : skipSpace cs with
  | [] => .stop (.gap (.ofFault ⟨.endOfObject, before []⟩) none)
  | c :: r =>
    have hr : r.length < cs.length := by rw [h, List.length_cons] at hs; omega
    if c = '\x7d' then .upTo (.done (before r)) r
    else if first then
      if c = '"' then (scanMember depth r).within (Nat.le_of_lt hr)
      else
        .stop (.gap (.ofFault ⟨.keyNotString, into 1 (c :: r)⟩)
          (some (scanValue depth (c :: r)).made))
    else if c = ',' then
      have hs' := length_skipSpace_le r
      match h' : skipSpace r with
      | [] => .stop (.gap ⟨⟨.endOfValue, before []⟩, some ⟨.endOfObject, before []⟩, none⟩ none)
      | c' :: r' =>
        have hr' : r'.length < cs.length := by rw [h', List.length_cons] at hs'; omega
        if c' = '"' then (scanMember depth r').within (Nat.le_of_lt hr')
        else if c' = '\x7d' then
          .stop (.gap
            ⟨⟨.trailingComma, into 1 (c' :: r')⟩,
              some ⟨.keyNotString, into 1 (c' :: r')⟩, none⟩ none)
        else .stop (.gap (.ofFault ⟨.keyNotString, into 1 (c' :: r')⟩) none)
    else .stop (.gap (.ofFault ⟨.expectedObjectEnd, into 1 (c :: r)⟩) none)
termination_by 3 * cs.length + 2
decreasing_by
  · omega
  · rw [h] at hs; simp only [List.length_cons] at hs ⊢; omega
  · omega

/-- A member, read after the opening quote of its key, and those after it. -/
def scanMember (depth : Nat) (cs : List Char) : Part Members cs.length :=
  let (key, afterKey) := scanKey cs
  let dead (g : Gap) : Part Members cs.length := .stop (.member key (.gap g) none (.done none))
  if h : afterKey.length < cs.length then
    have hs := length_skipSpace_le afterKey
    match h' : skipSpace afterKey with
    | [] => dead (.ofFault ⟨.endOfObject, before []⟩)
    | c :: r =>
      have hr : r.length < cs.length := by rw [h', List.length_cons] at hs; omega
      if c = ':' then
        let p := scanValue depth r
        match p.rest with
        | none => .stop (.member key p.made none (.done none))
        | some ⟨r', hr'⟩ =>
          let q := scanMembers depth false r'
          ⟨.member key p.made (closeObject r') q.made,
            (q.within (Nat.le_of_lt (Nat.lt_trans hr' hr))).rest⟩
      else dead (.ofFault ⟨.expectedColon, into 1 (c :: r)⟩)
  else dead (.ofFault ⟨.endOfObject, before []⟩)
termination_by 3 * cs.length + 1
decreasing_by all_goals omega

end

/-- A text as it is read. -/
def scan (cs : List Char) : Document :=
  let p := scanValue 0 cs
  ⟨p.made,
    match p.rest with
    | none => none
    | some ⟨r, _⟩ =>
      match skipSpace r with
      | [] => none
      | rest => some ⟨.trailingCharacters, into 1 rest⟩⟩

/-- What `reader` makes of a text; nothing may follow the value. -/
def readText (reader : Node → Except Fault α) (text : String) : Except String α :=
  let document := scan text.toList
  match reader document.root with
  | .error f => .error (f.message text.toList)
  | .ok a =>
    match document.tail with
    | some f => .error (f.message text.toList)
    | none => .ok a

/-- The value of a text. -/
def parse (text : String) : Except String Value := readText Node.value text

end ToolAgent.Json
