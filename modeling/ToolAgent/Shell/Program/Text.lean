import ToolAgent.Shell.Pattern
import ToolAgent.Shell.Program.Basic

/-!
# Programs that work on text
-/

namespace ToolAgent.Shell.Program

/-- Puts out files one after the other, perhaps with their lines numbered. -/
def cat : Program := fun c =>
  let o := Options.of "" c.args
  let number (bs : Bytes) : Bytes :=
    (byteLines bs).zipIdx.flatMap fun (l, i) =>
      let n := toString (i + 1)
      Utf8.ofString (Text.times (6 - n.length) " " ++ n ++ "\t") ++ l
  c.onEach "cat" o.operands id fun _ _ bs => if o.has 'n' then number bs else bs

/-- The headline of one of several files. -/
def headline (count index : Nat) (name : String) : Bytes :=
  if count ≤ 1 then []
  else Utf8.ofString ((if index = 0 then "" else "\n") ++ "==> "
    ++ (if name = "-" then "standard input" else name) ++ " <==\n")

/-- The old form of a count, as in `-3`. -/
def plainCount (args : List String) : List String :=
  match args with
  | a :: rest =>
    match a.toList with
    | '-' :: d :: ds =>
      if (d :: ds).all Char.isDigit then "-n" :: String.ofList (d :: ds) :: rest else args
    | _ => args
  | [] => []

/-- All but the last `n`. -/
def dropEnd (n : Nat) (xs : List α) : List α := xs.take (xs.length - n)

/-- The last `n`. -/
def takeEnd (n : Nat) (xs : List α) : List α := xs.drop (xs.length - n)

/-- Puts out the first lines or bytes. -/
def head : Program := fun c =>
  let o := Options.of "nc" (plainCount c.args)
  let shorten (units : List Bytes) (count : Int) : Bytes :=
    (if 0 ≤ count then units.take count.toNat else dropEnd (-count).toNat units).flatten
  let cut (bs : Bytes) : Bytes :=
    match (o.value? 'c').bind integer?, (o.value? 'n').bind integer? with
    | some n, _ => if 0 ≤ n then bs.take n.toNat else dropEnd (-n).toNat bs
    | none, n => shorten (byteLines bs) (n.getD 10)
  let fault (name : String) : String := "cannot open '" ++ name ++ "' for reading"
  c.onEach "head" o.operands fault fun i name bs =>
    headline o.operands.length i name ++ cut bs

/-- The words, or `y`, in line after line. -/
def yes : Program := fun c =>
  let words := if c.args.isEmpty then ["y"] else c.args
  let line := Utf8.ofString (String.intercalate " " words ++ "\n")
  .bytes c (List.replicate (endlessLength / line.length) line).flatten

/-- Puts out the last lines or bytes. -/
def tail : Program := fun c =>
  let o := Options.of "nc" (plainCount c.args)
  let shorten (units : List Bytes) (count : String) : Bytes :=
    match count.toList, integer? count with
    | '+' :: _, some n => (units.drop (n.toNat - 1)).flatten
    | _, some n => (takeEnd n.natAbs units).flatten
    | _, none => []
  let cut (bs : Bytes) : Bytes :=
    match o.value? 'c', o.value? 'n' with
    | some n, _ => shorten (bs.map ([·])) n
    | none, n => shorten (byteLines bs) (n.getD "10")
  let fault (name : String) : String := "cannot open '" ++ name ++ "' for reading"
  c.onEach "tail" o.operands fault fun i name bs =>
    headline o.operands.length i name ++ cut bs

/-- A blank byte. -/
def isBlankByte (b : UInt8) : Bool := b = 32 || (9 ≤ b && b ≤ 13)

/-- The number of words. -/
def wordCount (bs : Bytes) : Nat :=
  (bs.foldl (fun (n, inside) b =>
    if isBlankByte b then (n, false) else if inside then (n, true) else (n + 1, true))
    ((0, false) : Nat × Bool)).1

/-- The sum of some numbers. -/
def total (ns : List Nat) : Nat := ns.foldr (fun n sofar => n + sofar) 0

/-- Counts lines, words and bytes. -/
def wc : Program := fun c =>
  let o := Options.of "" c.args
  let all := !(o.has 'l' || o.has 'w' || o.has 'c' || o.has 'm')
  let counts (bs : Bytes) : List Nat :=
    (if all || o.has 'l' then [(bs.filter (· = 10)).length] else [])
      ++ (if all || o.has 'w' then [wordCount bs] else [])
      ++ (if o.has 'm' then [bs.length] else [])
      ++ (if all || o.has 'c' then [bs.length] else [])
  let names := if o.operands.isEmpty then ["-"] else o.operands
  let read := names.filterMap fun n => (c.read n).toOption.map fun bs => (n, counts bs, bs.length)
  let size := toString (total (read.map (·.2.2)))
  let width := if (counts []).length = 1 && names.length = 1 then 0
    else if names.contains "-" then 7 else size.length
  let row (ns : List Nat) (name : String) : Bytes :=
    Utf8.ofString (String.intercalate " " (ns.map fun n =>
      Text.times (width - (toString n).length) " " ++ toString n)
      ++ (if name = "-" && o.operands.isEmpty then "" else " " ++ name) ++ "\n")
  let e := c.onEach "wc" o.operands id fun _ name bs => row (counts bs) name
  if names.length ≤ 1 then e
  else
    let totals := (counts []).zipIdx.map fun (_, i) => total (read.map fun r => (r.2.1[i]?).getD 0)
    e.andThen (.bytes c (row totals "total"))

/-- The characters of a set for `tr`. -/
def translationSet : (fuel : Nat) → List Char → List Char
  | 0, _ => []
  | _ + 1, [] => []
  | fuel + 1, '\\' :: r =>
    match r with
    | 'n' :: r => '\n' :: translationSet fuel r
    | 't' :: r => '\t' :: translationSet fuel r
    | 'r' :: r => '\r' :: translationSet fuel r
    | '\\' :: r => '\\' :: translationSet fuel r
    | d :: r' =>
      let digits := (r.take 3).takeWhile fun c => '0' ≤ c && c ≤ '7'
      if digits = [] then d :: translationSet fuel r'
      else
        Char.ofNat (digits.foldl (fun n d => n * 8 + (d.toNat - 48)) 0)
          :: translationSet fuel (r.drop digits.length)
    | [] => ['\\']
  | fuel + 1, '[' :: ':' :: r =>
    let name := r.takeWhile (· ≠ ':')
    match r.drop name.length with
    | ':' :: ']' :: r =>
      ((classRanges (String.ofList name)).flatMap fun (a, b) =>
        (List.range (b.toNat - a.toNat + 1)).map fun i => Char.ofNat (a.toNat + i))
        ++ translationSet fuel r
    | _ => '[' :: ':' :: translationSet fuel r
  | fuel + 1, a :: '-' :: b :: r =>
    (List.range (b.toNat - a.toNat + 1)).map (fun i => Char.ofNat (a.toNat + i))
      ++ translationSet fuel r
  | fuel + 1, a :: r => a :: translationSet fuel r

/-- Runs of one byte of the set, each cut to one. -/
def squeeze (set : List UInt8) : Bytes → Bytes
  | [] => []
  | [b] => [b]
  | a :: b :: bs => if a = b && set.contains a then squeeze set (b :: bs)
    else a :: squeeze set (b :: bs)

/-- Replaces, squeezes or deletes bytes. -/
def tr : Program := fun c =>
  let o := Options.of "" c.args
  let set (i : Nat) : List UInt8 :=
    match o.operands[i]? with
    | some s => (translationSet (s.length + 1) s.toList).map fun ch => UInt8.ofNat ch.toNat
    | none => []
  let chosen := set 0
  let images := set 1
  let inside (b : UInt8) : Bool := chosen.contains b != (o.has 'c' || o.has 'C')
  let image (b : UInt8) : UInt8 :=
    if !inside b then b
    else match chosen.idxOf? b with
      | some i => (images[i]?).getD (images.getLast?.getD b)
      | none => images.getLast?.getD b
  let out :=
    if o.has 'd' then
      let kept := c.input.filter (!inside ·)
      if o.has 's' then squeeze images kept else kept
    else if images.isEmpty then
      if o.has 's' then squeeze chosen c.input else c.input
    else
      let moved := c.input.map image
      if o.has 's' then squeeze images moved else moved
  { Effect.bytes c out with drained := true }

/-- The numbers from `a` on in steps, as long as they do not pass `b`. -/
def countUp (a step b : Int) : List Int :=
  if step = 0 then []
  else
    let span := if 0 < step then b - a else a - b
    if span < 0 then []
    else (List.range (span.toNat / step.natAbs + 1)).map fun (i : Nat) => a + step * (i : Int)

/-- Counts from one number to another. -/
def seq : Program := fun c =>
  match c.args.mapM integer? with
  | some [b] => .text c (String.join ((countUp 1 1 b).map fun n => toString n ++ "\n"))
  | some [a, b] => .text c (String.join ((countUp a 1 b).map fun n => toString n ++ "\n"))
  | some [a, s, b] => .text c (String.join ((countUp a s b).map fun n => toString n ++ "\n"))
  | _ => .complain c 1 "seq: missing operand\nTry 'seq --help' for more information."

/-- Order of bytes. -/
def bytesLe : Bytes → Bytes → Bool
  | [], _ => true
  | _ :: _, [] => false
  | a :: as, b :: bs => a < b || (a = b && bytesLe as bs)

/-- The number at the start of a line. -/
def leadingNumber (line : Bytes) : Int :=
  let cs := (Utf8.decodeLossy line).dropWhile Text.isBlank
  match cs with
  | '-' :: ds => -Int.ofNat ((String.ofList (ds.takeWhile Char.isDigit)).toNat?.getD 0)
  | ds => Int.ofNat ((String.ofList (ds.takeWhile Char.isDigit)).toNat?.getD 0)

/-- Neighbours that are equal, kept once. -/
def unrepeated : List Bytes → List Bytes
  | a :: b :: ls => if a = b then unrepeated (b :: ls) else a :: unrepeated (b :: ls)
  | ls => ls

/-- Puts out lines in order. -/
def sort : Program := fun c =>
  let o := Options.of "kto" c.args
  let names := if o.operands.isEmpty then ["-"] else o.operands
  let content := (names.filterMap fun n => (c.read n).toOption).flatMap fun bs =>
    (byteLines bs).map bare
  let le (a b : Bytes) : Bool :=
    if o.has 'n' then
      leadingNumber a < leadingNumber b || (leadingNumber a == leadingNumber b && bytesLe a b)
    else bytesLe a b
  let sorted := content.mergeSort le
  let sorted := if o.has 'r' then sorted.reverse else sorted
  let sorted := if o.has 'u' then unrepeated sorted else sorted
  let e := c.onEach "sort" o.operands (fun n => "cannot read: " ++ n) fun _ _ _ => []
  if e.status ≠ 0 then { e with status := 2 }
  else e.andThen (.bytes c (sorted.flatMap ended))

/-- Neighbours that are equal, counted. -/
def countRuns : List Bytes → List (Nat × Bytes)
  | [] => []
  | l :: ls =>
    match countRuns ls with
    | (n, m) :: rest => if l = m then (n + 1, m) :: rest else (1, l) :: (n, m) :: rest
    | [] => [(1, l)]

/-- Puts out lines that differ from the one before. -/
def uniq : Program := fun c =>
  let o := Options.of "" c.args
  c.onEach "uniq" (o.operands.take 1) id fun _ _ bs =>
    let runs := countRuns ((byteLines bs).map bare)
    let runs := if o.has 'd' then runs.filter (1 < ·.1)
      else if o.has 'u' then runs.filter (·.1 = 1)
      else runs
    runs.flatMap fun (n, l) =>
      (if o.has 'c' then
        Utf8.ofString (Text.times (7 - (toString n).length) " " ++ toString n ++ " ")
          else []) ++ l ++ [10]

/-- A list of ranges such as `1,3-5`: the numbers from one that it has. -/
def inRanges (spec : String) (n : Nat) : Bool :=
  ((spec.toList.splitOn ',').map String.ofList).any fun part =>
    match (part.toList.splitOn '-').map String.ofList with
    | [a] => a.toNat? == some n
    | [a, b] => (a.toNat?.getD 1) ≤ n && n ≤ (b.toNat?.getD n)
    | _ => false

/-- Puts out parts of lines. -/
def cut : Program := fun c =>
  let o := Options.of "dfcb" c.args
  c.onEach "cut" o.operands id fun _ _ bs =>
    (byteLines bs).flatMap fun l =>
      let line := Utf8.decodeLossy (bare l)
      match o.value? 'f', o.value? 'c' <|> o.value? 'b' with
      | some spec, _ =>
        let d := ((o.value? 'd').bind (·.toList.head?)).getD '\t'
        let parts := line.splitOn d
        if parts.length ≤ 1 then Utf8.encode line ++ [10]
        else
          let kept := (parts.zipIdx.filter fun (_, i) => inRanges spec (i + 1)).map (·.1)
          Utf8.encode ([d].intercalate kept) ++ [10]
      | none, some spec =>
        Utf8.encode ((line.zipIdx.filter fun (_, i) => inRanges spec (i + 1)).map (·.1)) ++ [10]
      | none, none => Utf8.encode line ++ [10]

/-- Puts out lines from their ends to their starts. -/
def rev : Program := fun c =>
  c.onEach "rev" (Options.of "" c.args).operands id fun _ _ bs =>
    (byteLines bs).flatMap fun l => ended (Utf8.encode (Utf8.decodeLossy (bare l)).reverse)

/-- The lines in reverse. -/
def tac : Program := fun c =>
  c.onEach "tac" (Options.of "" c.args).operands
    (fun name => "failed to open '" ++ name ++ "' for reading") fun _ _ bs =>
      (byteLines bs).reverse.flatten

/-- The lines with numbers; empty ones have none. -/
def nl : Program := fun c =>
  c.onEach "nl" (Options.of "" c.args).operands id fun _ _ bs =>
    let (rows, _) := (byteLines bs).foldl (fun (rows, n) l =>
      if bare l = [] then ((Utf8.ofString (Text.times 7 " ") ++ ended l) :: rows, n)
      else
        let number := Text.times (6 - (toString n).length) " " ++ toString n ++ "\t"
        ((Utf8.ofString number ++ ended l) :: rows, n + 1)) (([] : List Bytes), 1)
    rows.reverse.flatten

/-- The value of an expression of one or three arguments; it fails if that is zero or empty. -/
def expr : Program := fun c =>
  let answer (s : String) : Effect :=
    { Effect.text c (s ++ "\n") with status := if s = "" || s = "0" then 1 else 0 }
  let flag (b : Bool) : Effect := answer (if b then "1" else "0")
  match c.args with
  | [] => .complain c 2 "expr: missing operand\nTry 'expr --help' for more information."
  | [a] => answer a
  | [a, op, b] =>
    match integer? a, integer? b with
    | some m, some n =>
      match op with
      | "+" => answer (toString (m + n))
      | "-" => answer (toString (m - n))
      | "*" => answer (toString (m * n))
      | "/" | "%" =>
        if n = 0 then .complain c 2 "expr: division by zero"
        else answer (toString (if op = "/" then m.tdiv n else m.tmod n))
      | "=" => flag (m == n)
      | "!=" => flag (m != n)
      | "<" => flag (decide (m < n))
      | "<=" => flag (decide (m ≤ n))
      | ">" => flag (decide (n < m))
      | ">=" => flag (decide (n ≤ m))
      | _ => .complain c 2 ("expr: syntax error: unexpected argument '" ++ op ++ "'")
    | _, _ =>
      match op with
      | "=" => flag (a == b)
      | "!=" => flag (a != b)
      | "<" => flag (decide (a < b))
      | ">" => flag (decide (b < a))
      | "+" | "-" | "*" | "/" | "%" => .complain c 2 "expr: non-integer argument"
      | _ => .complain c 2 ("expr: syntax error: unexpected argument '" ++ op ++ "'")
  | _ :: op :: _ => .complain c 2 ("expr: syntax error: unexpected argument '" ++ op ++ "'")

/-- Puts out its input, and writes it to files. -/
def tee : Program := fun c =>
  let o := Options.of "" c.args
  let start : Effect := { Effect.bytes c c.input with drained := true }
  o.operands.foldl (fun e name =>
    let old := if o.has 'a' then (Files.readBytes e.tree c.here name).toOption.getD [] else []
    match Files.writeBytes e.tree c.here name (old ++ c.input) with
    | .ok tree => { e with tree := tree }
    | .error err =>
      { e with output := e.output
        ++ [(2, Utf8.ofString ("tee: " ++ name ++ ": " ++ err.reason ++ "\n"))],
               status := 1 }) start

/-! ### Searching and editing -/

/-- Puts out the lines that fit an expression. -/
def grep : Program := fun c =>
  let o := Options.of "eABCm" c.args
  let (pattern, files) := match o.value? 'e', o.operands with
    | some p, files => (p, files)
    | none, p :: files => (p, files)
    | none, [] => ("", [])
  let re := if o.has 'F' then Regex.literal pattern else Regex.parse (o.has 'E') pattern
  let deep := o.has 'r' || o.has 'R'
  let names := if files.isEmpty then (if deep then ["."] else ["-"]) else files
  let hits (bs : Bytes) : List (Nat × Bytes) :=
    ((byteLines bs).zipIdx.map fun (l, i) => (i + 1, bare l)).filter fun (_, l) =>
      Regex.hasMatch (o.has 'i') re true (Utf8.decodeLossy l) != o.has 'v'
  let report (named : Bool) (name : String) (bs : Bytes) : Bytes × Bool :=
    let found := hits bs
    let lead := if named && !o.has 'h' then name ++ ":" else ""
    if o.has 'q' then ([], !found.isEmpty)
    else if o.has 'l' then
      (if found.isEmpty then [] else Utf8.ofString (name ++ "\n"), !found.isEmpty)
    else if o.has 'c' then (Utf8.ofString (lead ++ toString found.length ++ "\n"), !found.isEmpty)
    else (found.flatMap fun (i, l) =>
      let start := Utf8.ofString (lead ++ (if o.has 'n' then toString i ++ ":" else ""))
      if o.has 'o' then
        (Regex.findMatches (o.has 'i') re true (Utf8.decodeLossy l)).flatMap fun part =>
          start ++ Utf8.encode part ++ [10]
      else start ++ l ++ [10],
        !found.isEmpty)
  let rec under (fuel : Nat) (path : String) (e : Entry) : List (String × Bytes) :=
    match fuel, e with
    | _, .file bs => [(path, bs)]
    | fuel + 1, .dir cs => cs.flatMap fun (n, child) => under fuel (Path.join path n) child
    | _, _ => []
  let start : Effect × Bool := (⟨[], 0, c.tree, names.contains "-"⟩, false)
  let (e, any) := names.foldl (fun (e, any) name =>
    match Files.find c.tree c.here name with
    | .ok (_, .dir cs) =>
      if deep then
        (under 100 name (.dir cs)).foldl (fun (e, any) (p, bs) =>
          let (out, hit) := report true p bs
          (e.andThen (.bytes c out), any || hit)) (e, any)
      else
        (e.andThen (.complain c 2 ("grep: " ++ name ++ ": Is a directory")), any)
    | _ =>
      match c.read name with
      | .ok bs =>
        let (out, hit) := report (1 < names.length || deep || o.has 'H') name bs
        (e.andThen (.bytes c out), any || hit)
      | .error err =>
        (e.andThen (if o.has 's' then .exit c 2
          else .complain c 2 ("grep: " ++ name ++ ": " ++ err.reason)), any))
    start
  { e with status :=
    if any && (o.has 'q' || e.status = 0) then 0 else if e.status = 0 then 1 else e.status }

/-- An editing command: the lines that it is for, and what it does. -/
inductive Edit
  | substitute (re : Regex) (new : List Char) (limit : Nat) (print : Bool)
  | print
  | delete
  | quit

/-- The lines that an editing command is for. -/
inductive Address
  | all
  | line (n : Nat)
  | last
  | range (a : Nat) (b : Option Nat)
  | matching (re : Regex)

/-- The parts of a substitution, read after its first delimiter. -/
def delimited (d : Char) (cs : List Char) : List Char × List Char :=
  let rec go (seen : List Char) : List Char → List Char × List Char
    | [] => (seen.reverse, [])
    | '\\' :: c :: r => if c = d then go (c :: seen) r else go (c :: '\\' :: seen) r
    | c :: r => if c = d then (seen.reverse, r) else go (c :: seen) r
  go [] cs

/-- The replacement of a match. -/
def replacement (new matched : List Char) : List Char :=
  match new with
  | [] => []
  | '\\' :: 'n' :: r => '\n' :: replacement r matched
  | '\\' :: c :: r => c :: replacement r matched
  | '&' :: r => matched ++ replacement r matched
  | c :: r => c :: replacement r matched

/-- One editing command. -/
def parseEdit (extended : Bool) (cs : List Char) : Option (Address × Edit) :=
  let cs := cs.dropWhile (· == ' ')
  let digits (cs : List Char) : List Char × List Char :=
    (cs.takeWhile Char.isDigit, cs.dropWhile Char.isDigit)
  let number (ds : List Char) : Nat := (String.ofList ds).toNat?.getD 0
  let (address, cs) : Address × List Char := match cs with
    | '$' :: r => (.last, r)
    | '/' :: r =>
      let (re, r) := delimited '/' r
      (.matching (Regex.parse extended (String.ofList re)), r)
    | _ =>
      match digits cs with
      | ([], r) => (.all, r)
      | (a, ',' :: '$' :: r) => (.range (number a) none, r)
      | (a, ',' :: r) =>
        let (b, r) := digits r
        (.range (number a) (some (number b)), r)
      | (a, r) => (.line (number a), r)
  match cs with
  | 'p' :: _ => some (address, .print)
  | 'd' :: _ => some (address, .delete)
  | 'q' :: _ => some (address, .quit)
  | 's' :: d :: r =>
    let (re, r) := delimited d r
    let (new, flags) := delimited d r
    some (address, .substitute (Regex.parse extended (String.ofList re)) new
      (if flags.contains 'g' then 1000000000 else 1) (flags.contains 'p'))
  | _ => none

/-- Edits lines by a script. -/
def sed : Program := fun c =>
  let o := Options.of "e" c.args
  let (script, files) := match o.values 'e', o.operands with
    | [], s :: files => (s, files)
    | [], [] => ("", [])
    | scripts, files => (String.intercalate "\n" scripts, files)
  let edits := (script.toList.splitOnP fun ch => ch == ';' || ch == '\n').filterMap
    (parseEdit (o.has 'E' || o.has 'r'))
  let run (bs : Bytes) : Bytes :=
    let ls := byteLines bs
    let count := ls.length
    let applies (a : Address) (i : Nat) (line : List Char) : Bool :=
      match a with
      | .all => true
      | .line n => i = n
      | .last => i = count
      | .range a b => a ≤ i && i ≤ b.getD count
      | .matching re => Regex.hasMatch false re true line
    let (parts, _) := ls.zipIdx.foldl (fun (acc : List Bytes × Bool) (l, k) =>
      if acc.2 then acc
      else
        let stop := if l.getLast? = some 10 then [10] else []
        let line := Utf8.decodeLossy (bare l)
        let (line, out, deleted, quits) := edits.foldl (fun (line, out, deleted, quits) (a, e) =>
          if deleted || !applies a (k + 1) line then (line, out, deleted, quits)
          else match e with
            | .print => (line, out ++ Utf8.encode line ++ [10], deleted, quits)
            | .delete => (line, out, true, quits)
            | .quit => (line, out, deleted, true)
            | .substitute re new limit print =>
              let line' := Regex.replaceMatches re (replacement new) limit true line
              (line', if print && line' ≠ line then out ++ Utf8.encode line' ++ [10] else out,
                deleted, quits))
          (line, ([] : Bytes), false, false)
        (out :: acc.1 |> fun parts =>
          if deleted || o.has 'n' then parts else (Utf8.encode line ++ stop) :: parts, quits))
      (([] : List Bytes), false)
    parts.reverse.flatten
  let fault (name : String) : String := "can't read " ++ name
  if o.has 'i' then
    files.foldl (fun e name =>
      match Files.readBytes e.tree c.here name with
      | .error err => e.andThen { Effect.complain c 2 ("sed: " ++ fault name ++ ": " ++ err.reason)
          with tree := e.tree }
      | .ok bs =>
        { e with tree := (Files.writeBytes e.tree c.here name (run bs)).toOption.getD e.tree })
      (.exit c 0)
  else
    let e := c.onEach "sed" files fault fun _ _ bs => run bs
    { e with status := if e.status = 0 then 0 else 2 }

/-! ### Names -/

/-- The last name of a path. -/
def basename : Program := fun c =>
  match c.args with
  | path :: rest =>
    let last := (Path.trimEnd (Path.pieces path)).getLast?.getD "/"
    let last := match rest with
      | ending :: _ =>
        if Text.endsWith last ending && last ≠ ending then
          String.ofList (last.toList.take (last.length - ending.length)) else last
      | [] => last
    .text c (last ++ "\n")
  | [] => .complain c 1 "basename: missing operand\nTry 'basename --help' for more information."

/-- A path without its last name. -/
def dirname : Program := fun c =>
  match c.args with
  | path :: _ =>
    let p := (Path.parent? path).getD (if Path.isAbsolute path then "/" else ".")
    .text c ((if p = "" then "." else p) ++ "\n")
  | [] => .complain c 1 "dirname: missing operand\nTry 'dirname --help' for more information."

end ToolAgent.Shell.Program
