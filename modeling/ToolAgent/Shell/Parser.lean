import ToolAgent.Shell.Builtin
import ToolAgent.Shell.Syntax

/-!
# Reading shell scripts

A script is read one complete line of commands at a time, as it is run. The functions on commands
call each other at most as deep as the text is long, which bounds their recursion.
-/

namespace ToolAgent.Shell

/-- What is left of a script, and the line where that begins. -/
structure Source where
  rest : List Char
  line : Nat
deriving Repr

/-- The source at a later point of the text. -/
def Source.at (s : Source) (rest : List Char) : Source :=
  ⟨rest, s.line + ((s.rest.take (s.rest.length - rest.length)).filter (· == '\n')).length⟩

/-- The source of a text that begins at a line. An end of line follows its last line. -/
def Source.ofText (text : List Char) (line : Nat) : Source :=
  match text.getLast? with
  | none | some '\n' | some '\\' => ⟨text, line⟩
  | some _ => ⟨text ++ ['\n'], line⟩

/-- What a parser comes to: something read and the source after it, or a fault. -/
abbrev Parse (α : Type) := Except SyntaxFault (α × Source)

/-! ### Characters -/

/-- Whether a name may start with this character. -/
def isNameStart (c : Char) : Bool := c.isAlpha || c = '_'

/-- Whether a name may hold this character. -/
def isNameChar (c : Char) : Bool := c.isAlphanum || c = '_'

/-- Characters that end a word. -/
def isMeta (c : Char) : Bool :=
  c = ' ' || c = '\t' || c = '\n' || c = ';' || c = '&' || c = '|' || c = '<' || c = '>'
    || c = '(' || c = ')'

/-- Skips blanks, line continuations and comments. -/
def skipBlanks : List Char → List Char
  | ' ' :: r => skipBlanks r
  | '\t' :: r => skipBlanks r
  | '\\' :: '\n' :: r => skipBlanks r
  | '#' :: r => r.dropWhile (· ≠ '\n')
  | r => r

/-- Skips blanks, comments and line ends; `fuel` bounds how many. -/
def skipLines : (fuel : Nat) → List Char → List Char
  | 0, cs => cs
  | fuel + 1, cs =>
    match skipBlanks cs with
    | '\n' :: r => skipLines fuel r
    | r => r

/-- The source after blanks, comments and line ends. -/
def skipNewlines (s : Source) : Source := s.at (skipLines (s.rest.length + 1) s.rest)

/-- The source after blanks and comments. -/
def blanks (s : Source) : Source := s.at (skipBlanks s.rest)

/-! ### Words -/

/-- The text up to a closing bracket, quotes and nested brackets respected; `depth` counts the
brackets that are open. -/
def bracketed (opening closing : Char) :
    (depth : Nat) → (quote : Option Char) → (seen : List Char) → List Char →
    Option (List Char × List Char)
  | _, _, _, [] => none
  | depth, some q, seen, c :: r =>
    if c = q then bracketed opening closing depth none (c :: seen) r
    else match c, q, r with
      | '\\', '"', d :: r => bracketed opening closing depth (some q) (d :: '\\' :: seen) r
      | _, _, r => bracketed opening closing depth (some q) (c :: seen) r
  | depth, none, seen, c :: r =>
    if c = closing then
      match depth with
      | 0 => some (seen.reverse, r)
      | depth + 1 => bracketed opening closing depth none (c :: seen) r
    else if c = opening then bracketed opening closing (depth + 1) none (c :: seen) r
    else if c = '\'' || c = '"' then bracketed opening closing depth (some c) (c :: seen) r
    else match c, r with
      | '\\', d :: r => bracketed opening closing depth none (d :: '\\' :: seen) r
      | _, r => bracketed opening closing depth none (c :: seen) r

/-- The text up to a grave accent; a backslash protects one. -/
def accented (seen : List Char) : List Char → Option (List Char × List Char)
  | [] => none
  | '\\' :: '\x60' :: r => accented ('\x60' :: seen) r
  | '\\' :: '\\' :: r => accented ('\\' :: seen) r
  | '\\' :: '$' :: r => accented ('$' :: seen) r
  | c :: r => if c = '\x60' then some (seen.reverse, r) else accented (c :: seen) r

/-- What a dollar sign begins, read after it; none if it stands for itself. -/
def dollar (inQuotes : Bool) (cs : List Char) : Except SyntaxFault (Option (Piece × List Char)) :=
  match cs with
  | '(' :: '(' :: r =>
    match bracketed '(' ')' 0 none [] r with
    | some (expr, ')' :: r) => .ok (some (.arithmetic expr inQuotes, r))
    | _ =>
      match bracketed '(' ')' 0 none [] ('(' :: r) with
      | some (script, r) => .ok (some (.command script inQuotes, r))
      | none => .error (.unmatched ")" 0)
  | '(' :: r =>
    match bracketed '(' ')' 0 none [] r with
    | some (script, r) => .ok (some (.command script inQuotes, r))
    | none => .error .unclosedCommand
  | '\x7b' :: r =>
    match bracketed '\x7b' '\x7d' 0 none [] r with
    | some (inside, r) =>
      let (lead, inside) := match inside with
        | '#' :: c :: more => (['#'], c :: more)
        | other => ([], other)
      let special := match inside with
        | c :: _ => c = '@' || c = '*' || c = '?' || c = '#' || c = '$' || c = '!' || c = '-'
        | [] => false
      let name := if special then inside.take 1 else inside.takeWhile isNameChar
      let modifier := inside.drop name.length
      .ok (some (.param (String.ofList name) (lead ++ modifier) inQuotes, r))
    | none => .error (.unmatched "\x7d" 0)
  | c :: r =>
    if isNameStart c then
      .ok (some (.param (String.ofList (c :: r.takeWhile isNameChar)) [] inQuotes,
        r.dropWhile isNameChar))
    else if c.isDigit || c = '@' || c = '*' || c = '?' || c = '#' || c = '$' || c = '!'
        || c = '-' then
      .ok (some (.param (String.ofList [c]) [] inQuotes, r))
    else .ok none
  | [] => .ok none

/-- The pieces with a character added. -/
def pushChar (quoted : Bool) (c : Char) : List Piece → List Piece
  | .plain t :: ps => if quoted then .quoted [c] :: .plain t :: ps else .plain (t ++ [c]) :: ps
  | .quoted t :: ps => if quoted then .quoted (t ++ [c]) :: ps else .plain [c] :: .quoted t :: ps
  | ps => (if quoted then .quoted [c] else .plain [c]) :: ps

/-- Text in which only expansions and backslashes count, up to the closing quote or, if there is
none, to the end; `seen` has the pieces of the word so far, the last first. -/
def quotedFrom (closing : Option Char) : (fuel : Nat) → (seen : List Piece) → List Char →
    Except SyntaxFault (List Piece × List Char)
  | 0, _, _ => .error (.unmatched "\"" 0)
  | _ + 1, seen, [] => if closing.isNone then .ok (seen, []) else .error (.unmatched "\"" 0)
  | fuel + 1, seen, c :: r =>
    if closing = some c then .ok (seen, r)
    else if c = '\\' then
      match r with
      | '\n' :: r => quotedFrom closing fuel seen r
      | d :: r =>
        if closing = some d || d = '\\' || d = '$' || d = '\x60' then
          quotedFrom closing fuel (pushChar true d seen) r
        else quotedFrom closing fuel (pushChar true d (pushChar true '\\' seen)) r
      | [] => quotedFrom closing fuel (pushChar true '\\' seen) r
    else if c = '$' then
      match dollar true r with
      | .error e => .error e
      | .ok (some (p, r)) => quotedFrom closing fuel (p :: seen) r
      | .ok none => quotedFrom closing fuel (pushChar true '$' seen) r
    else if c = '\x60' then
      match accented [] r with
      | some (script, r) => quotedFrom closing fuel (.command script true :: seen) r
      | none => .error (.unmatched "\x60" 0)
    else quotedFrom closing fuel (pushChar true c seen) r

/-- The inside of double quotes. -/
def doubleQuoted (fuel : Nat) (seen : List Piece) (cs : List Char) :
    Except SyntaxFault (List Piece × List Char) := quotedFrom (some '"') fuel seen cs

/-- The inside of single quotes after a dollar sign, its escapes carried out, and what follows. -/
def escapedQuote (seen : List Char) : List Char → Option (List Char × List Char)
  | [] => none
  | '\\' :: c :: r =>
    escapedQuote (if c = '\'' then c :: seen else c :: '\\' :: seen) r
  | c :: r =>
    if c = '\'' then
      let inside := seen.reverse
      some (Utf8.decodeLossy (Builtin.unescape false (inside.length + 1) inside).1, r)
    else escapedQuote (c :: seen) r

/-- The word at the start of a text; `seen` has its pieces so far, the last first. -/
def wordFrom : (fuel : Nat) → (seen : List Piece) → List Char →
    Except SyntaxFault (List Piece × List Char)
  | 0, seen, cs => .ok (seen.reverse, cs)
  | _ + 1, seen, [] => .ok (seen.reverse, [])
  | fuel + 1, seen, c :: r =>
    if isMeta c then .ok (seen.reverse, c :: r)
    else if c = '\'' then
      let inside := r.takeWhile (· ≠ '\'')
      match r.dropWhile (· ≠ '\'') with
      | _ :: r => wordFrom fuel (.quoted inside :: seen) r
      | [] => .error (.unmatched "'" 0)
    else if c = '"' then
      match doubleQuoted (r.length + 1) (.quoted [] :: seen) r with
      | .ok (seen, r) => wordFrom fuel seen r
      | .error e => .error e
    else if c = '\\' then
      match r with
      | '\n' :: r => wordFrom fuel seen r
      | d :: r => wordFrom fuel (.quoted [d] :: seen) r
      | [] => .ok ((Piece.quoted ['\\'] :: seen).reverse, [])
    else if c = '$' then
      match r with
      | '\'' :: r =>
        match escapedQuote [] r with
        | some (inside, r) => wordFrom fuel (.quoted inside :: seen) r
        | none => .error (.unmatched "'" 0)
      | _ =>
        match dollar false r with
        | .error e => .error e
        | .ok (some (p, r)) => wordFrom fuel (p :: seen) r
        | .ok none => wordFrom fuel (pushChar false '$' seen) r
    else if c = '\x60' then
      match accented [] r with
      | some (script, r) => wordFrom fuel (.command script false :: seen) r
      | none => .error (.unmatched "\x60" 0)
    else wordFrom fuel (pushChar false c seen) r

/-- The word at the start of a text. -/
def parseWord (s : Source) : Parse Word :=
  match wordFrom (s.rest.length + 1) [] s.rest with
  | .ok (w, rest) => .ok (w, s.at rest)
  | .error (.unmatched q _) => .error (.unmatched q s.line)
  | .error e => .error e

/-! ### Tokens -/

/-- The token at the start of a text, for a complaint about it. -/
def tokenText (cs : List Char) : String :=
  match cs with
  | '\n' :: _ => "newline"
  | c :: r =>
    if isMeta c then
      match c, r with
      | ';', ';' :: _ => ";;"
      | '&', '&' :: _ => "&&"
      | '|', '|' :: _ => "||"
      | _, _ => String.ofList [c]
    else String.ofList ((c :: r).takeWhile (!isMeta ·))
  | [] => ""

/-- The complaint about what stands here. -/
def complaint (s : Source) : SyntaxFault :=
  match s.rest with
  | [] => .endOfFile
  | cs => .unexpected (tokenText cs) s.line

/-- The reserved word at the start of a text, with what follows. -/
def keyword? (cs : List Char) : Option (String × List Char) :=
  let w := cs.takeWhile (!isMeta ·)
  let s := String.ofList w
  if ["if", "then", "else", "elif", "fi", "while", "until", "do", "done", "for", "in", "case",
      "esac", "\x7b", "\x7d", "!", "function", "[["].contains s
  then some (s, cs.drop w.length) else none

/-- What follows the reserved word `word`. -/
def expect (word : String) (s : Source) : Except SyntaxFault Source :=
  let s := skipNewlines s
  match keyword? s.rest with
  | some (w, rest) => if w = word then .ok (s.at rest) else .error (complaint s)
  | none => .error (complaint s)

/-! ### Here-documents -/

/-- The text of a word without its quotes, and whether it has any. -/
def delimiterOf (w : Word) : List Char × Bool :=
  (w.flatMap fun
    | .plain cs | .quoted cs => cs
    | _ => [],
   w.any fun
    | .quoted _ => true
    | _ => false)

/-- The lines up to the one that is `stop`, and what follows that. With `tabs`, tabs at the start of
lines are left out. -/
def linesTo (stop : List Char) (tabs : Bool) : (fuel : Nat) → List Char → List Char × List Char
  | 0, cs => ([], cs)
  | fuel + 1, cs =>
    if cs = [] then ([], [])
    else
      let line := cs.takeWhile (· ≠ '\n')
      let rest := (cs.drop line.length).drop 1
      let line := if tabs then line.dropWhile (· == '\t') else line
      if line = stop then ([], rest)
      else
        let (lines, after) := linesTo stop tabs fuel rest
        (line ++ '\n' :: lines, after)

/-- A here-document whose delimiter is read next: its text stands on the lines after this one, from
which it is taken away. -/
def parseDocument (channel : Nat) (tabs : Bool) (s : Source) : Parse Redirect :=
  match wordFrom (s.rest.length + 1) [] (skipBlanks s.rest) with
  | .error e => .error e
  | .ok ([], r) => .error (match r with
    | [] => .endOfFile
    | _ => .unexpected "newline" s.line)
  | .ok (w, r) =>
    let (stop, quoted) := delimiterOf w
    let line := r.takeWhile (· ≠ '\n')
    let (body, after) := linesTo stop tabs (r.length + 1) ((r.drop line.length).drop 1)
    let target : Except SyntaxFault Word :=
      if quoted then .ok [.quoted body]
      else (quotedFrom none (body.length + 1) [] body).map fun (seen, _) => seen.reverse
    target.map fun target => (⟨channel, .hereDocument, target⟩, ⟨line ++ '\n' :: after, s.line⟩)

/-! ### Redirections -/

/-- The operator of a redirection, with the channel that it is about. -/
def redirectOperator? (cs : List Char) : Option (Nat × RedirectKind × List Char) :=
  let digits := cs.takeWhile Char.isDigit
  let channel := (String.ofList digits).toNat?
  match cs.drop digits.length with
  | '<' :: '<' :: '<' :: r => some (channel.getD 0, .hereText, r)
  | '<' :: '<' :: r => some (channel.getD 0, .hereDocument, r)
  | '<' :: '&' :: r => some (channel.getD 0, .duplicate, r)
  | '<' :: r => some (channel.getD 0, .input, r)
  | '>' :: '>' :: r => some (channel.getD 1, .append, r)
  | '>' :: '&' :: r => some (channel.getD 1, .duplicate, r)
  | '>' :: '|' :: r => some (channel.getD 1, .output, r)
  | '>' :: r => some (channel.getD 1, .output, r)
  | _ => none

/-- A redirection, if one stands here. -/
def parseRedirect? (s : Source) : Except SyntaxFault (Option (List Redirect × Source)) :=
  let both (kind : RedirectKind) (r : List Char) :
      Except SyntaxFault (Option (List Redirect × Source)) :=
    match parseWord (blanks (s.at r)) with
    | .error e => .error e
    | .ok ([], t) => .error (complaint t)
    | .ok (w, t) => .ok (some ([⟨1, kind, w⟩, ⟨2, .duplicate, [.plain ['1']]⟩], t))
  match s.rest with
  | '&' :: '>' :: '>' :: r => both .append r
  | '&' :: '>' :: r => both .output r
  | _ =>
    match redirectOperator? s.rest with
    | none => .ok none
    | some (channel, .hereDocument, '-' :: r) =>
      (parseDocument channel true (s.at r)).map fun (d, t) => some ([d], t)
    | some (channel, .hereDocument, r) =>
      (parseDocument channel false (s.at r)).map fun (d, t) => some ([d], t)
    | some (channel, kind, r) =>
      match parseWord (blanks (s.at r)) with
      | .error e => .error e
      | .ok ([], t) => .error (complaint t)
      | .ok (w, t) => .ok (some ([⟨channel, kind, w⟩], t))

/-- The redirections after a compound command. -/
def parseRedirects : (fuel : Nat) → Source → Parse (List Redirect)
  | 0, s => .ok ([], s)
  | fuel + 1, s =>
    match parseRedirect? (blanks s) with
    | .error e => .error e
    | .ok none => .ok ([], s)
    | .ok (some (rs, t)) =>
      match parseRedirects fuel t with
      | .error e => .error e
      | .ok (more, u) => .ok (rs ++ more, u)

/-- The setting of a variable that a word stands for. -/
def setting? : Word → Option (String × Word)
  | .plain t :: ps =>
    let name := t.takeWhile isNameChar
    match name, t.drop name.length with
    | c :: _, '=' :: value =>
      if isNameStart c then
        some (String.ofList name, (if value = [] then ps else .plain value :: ps))
      else none
    | _, _ => none
  | _ => none

/-- The rest of a simple command. -/
def parseSimple : (fuel : Nat) → Simple → Source → Parse Simple
  | 0, acc, s => .ok (acc, s)
  | fuel + 1, acc, s =>
    let s := blanks s
    match parseRedirect? s with
    | .error e => .error e
    | .ok (some (rs, t)) => parseSimple fuel { acc with redirects := acc.redirects ++ rs } t
    | .ok none =>
      match parseWord s with
      | .error e => .error e
      | .ok ([], _) => .ok (acc, s)
      | .ok (w, t) =>
        match acc.words, setting? w with
        | [], some p => parseSimple fuel { acc with settings := acc.settings ++ [p] } t
        | _, _ => parseSimple fuel { acc with words := acc.words ++ [w] } t

/-- The words up to the end of a list of words. -/
def parseWords : (fuel : Nat) → Source → Parse (List Word)
  | 0, s => .ok ([], s)
  | fuel + 1, s =>
    match parseWord (blanks s) with
    | .error e => .error e
    | .ok ([], _) => .ok ([], blanks s)
    | .ok (w, t) =>
      match parseWords fuel t with
      | .error e => .error e
      | .ok (ws, u) => .ok (w :: ws, u)

/-- The patterns of an arm, up to the closing bracket. -/
def parsePatterns : (fuel : Nat) → Source → Parse (List Word)
  | 0, s => .error (complaint s)
  | fuel + 1, s =>
    match parseWord (blanks s) with
    | .error e => .error e
    | .ok ([], t) => .error (complaint t)
    | .ok (w, t) =>
      let t := blanks t
      match t.rest with
      | ')' :: r => .ok ([w], t.at r)
      | '|' :: r =>
        match parsePatterns fuel (t.at r) with
        | .error e => .error e
        | .ok (ws, u) => .ok (w :: ws, u)
      | _ => .error (complaint t)

/-! ### Conditions -/

/-- Whether a word is a condition on one operand. -/
def unaryOperator? : Word → Option String
  | [.plain ['-', c]] => if c.isAlpha then some (String.ofList ['-', c]) else none
  | _ => none

/-- The operators between two operands that are words. -/
def binaryOperators : List String :=
  ["=", "==", "!=", "=~", "-eq", "-ne", "-lt", "-le", "-gt", "-ge", "-nt", "-ot", "-ef"]

/-- The operator between two operands at the start of a text. -/
def binaryOperator? (cs : List Char) : Option (String × List Char) :=
  match cs with
  | '<' :: r => some ("<", r)
  | '>' :: r => some (">", r)
  | _ =>
    let w := cs.takeWhile (!isMeta ·)
    let s := String.ofList w
    if binaryOperators.contains s then some (s, cs.drop w.length) else none

/-- The operand on the right of an operator. A regular expression goes on up to a blank. -/
def parseOperand (op : String) (s : Source) : Parse Word :=
  let s := blanks s
  let token := s.rest.takeWhile fun c => c ≠ ' ' && c ≠ '\t' && c ≠ '\n'
  if op = "=~" && token.all fun c => c ≠ '$' && c ≠ '\'' && c ≠ '"' && c ≠ '\\' then
    .ok ([.plain token], s.at (s.rest.drop token.length))
  else parseWord s

/-- A condition without connectives. -/
def parseTest (s : Source) : Parse Condition :=
  match parseWord s with
  | .error e => .error e
  | .ok ([], t) => .error (complaint t)
  | .ok (w, t) =>
    match binaryOperator? (blanks t).rest with
    | some (op, r) =>
      (parseOperand op ((blanks t).at r)).map fun (v, u) => (.binary op w v, u)
    | none =>
      match unaryOperator? w with
      | none => .ok (.unary "-n" w, t)
      | some op =>
        match parseWord (blanks t) with
        | .error e => .error e
        | .ok ([], u) => .error (complaint u)
        | .ok ([.plain [']', ']']], _) => .ok (.unary "-n" w, t)
        | .ok (v, u) => .ok (.unary op v, u)

/-- A condition whose connectives bind at least as strongly as `level` says: 0 for `||`, 1 for `&&`,
2 for none. -/
def parseCondition : (fuel : Nat) → (level : Nat) → Source → Parse Condition
  | 0, _, s => .error (complaint s)
  | fuel + 1, 0, s =>
    match parseCondition fuel 1 s with
    | .error e => .error e
    | .ok (a, t) =>
      let t := skipNewlines t
      match t.rest with
      | '|' :: '|' :: r => (parseCondition fuel 0 (t.at r)).map fun (b, u) => (.or a b, u)
      | _ => .ok (a, t)
  | fuel + 1, 1, s =>
    match parseCondition fuel 2 s with
    | .error e => .error e
    | .ok (a, t) =>
      let t := skipNewlines t
      match t.rest with
      | '&' :: '&' :: r => (parseCondition fuel 1 (t.at r)).map fun (b, u) => (.and a b, u)
      | _ => .ok (a, t)
  | fuel + 1, _, s =>
    let s := skipNewlines s
    match s.rest with
    | '!' :: ' ' :: r => (parseCondition fuel 2 (s.at r)).map fun (a, t) => (.not a, t)
    | '(' :: r =>
      match parseCondition fuel 0 (s.at r) with
      | .error e => .error e
      | .ok (a, t) =>
        match (skipNewlines t).rest with
        | ')' :: r => .ok (a, (skipNewlines t).at r)
        | _ => .error (complaint t)
    | _ => parseTest s

/-! ### Commands -/

/-- Whether a list of commands ends here. -/
def atListEnd (cs : List Char) : Bool :=
  match cs with
  | [] | ')' :: _ | ';' :: ';' :: _ => true
  | _ =>
    match keyword? cs with
    | some (w, _) => ["then", "else", "elif", "fi", "do", "done", "esac", "\x7d"].contains w
    | none => false

/-- Whether a command is more than a simple one, as the body of a function has to be. -/
def isCompound : Command → Bool
  | .simple _ | .define _ _ => false
  | _ => true

mutual

/-- Commands up to the end of a list; with `oneLine`, at most up to the end of the line. -/
def parseList (fuel : Nat) (oneLine : Bool) (s : Source) : Parse (List Command) :=
  match fuel with
  | 0 => .error (complaint s)
  | fuel + 1 =>
    let s := if oneLine then blanks s else skipNewlines s
    if atListEnd s.rest then .ok ([], s)
    else match parseAndOr fuel s with
      | .error e => .error e
      | .ok (c, t) =>
        let t := blanks t
        let continue_ (c : Command) (u : Source) : Parse (List Command) :=
          match parseList fuel oneLine u with
          | .error e => .error e
          | .ok (cs, v) => .ok (c :: cs, v)
        match t.rest with
        | ';' :: ';' :: _ => .ok ([c], t)
        | ';' :: r => continue_ c (t.at r)
        | '&' :: r => continue_ (.background c) (t.at r)
        | '\n' :: r => if oneLine then .ok ([c], t.at r) else continue_ c (t.at r)
        | _ => if atListEnd t.rest then .ok ([c], t) else .error (complaint t)

/-- Pipelines joined by `&&` and `||`. -/
def parseAndOr (fuel : Nat) (s : Source) : Parse Command :=
  match fuel with
  | 0 => .error (complaint s)
  | fuel + 1 =>
    match parsePipeline fuel s with
    | .error e => .error e
    | .ok (c, t) => parseAndOrTail fuel c t

/-- What follows the pipelines joined so far. -/
def parseAndOrTail (fuel : Nat) (c : Command) (s : Source) : Parse Command :=
  match fuel with
  | 0 => .error (complaint s)
  | fuel + 1 =>
    let s := blanks s
    let next (join : Command → Command → Command) (r : List Char) : Parse Command :=
      match parsePipeline fuel (skipNewlines (s.at r)) with
      | .error e => .error e
      | .ok (d, t) => parseAndOrTail fuel (join c d) t
    match s.rest with
    | '&' :: '&' :: r => next .both r
    | '|' :: '|' :: r => next .either r
    | _ => .ok (c, s)

/-- Commands joined by `|`. -/
def parsePipeline (fuel : Nat) (s : Source) : Parse Command :=
  match fuel with
  | 0 => .error (complaint s)
  | fuel + 1 =>
    let s := blanks s
    let (negated, s) := match keyword? s.rest with
      | some ("!", r) => (true, s.at r)
      | _ => (false, s)
    match parseStages fuel s with
    | .error e => .error e
    | .ok ([c], t) => .ok (if negated then .pipeline true [c] else c, t)
    | .ok (cs, t) => .ok (.pipeline negated cs, t)

/-- The commands of a pipeline. -/
def parseStages (fuel : Nat) (s : Source) : Parse (List Command) :=
  match fuel with
  | 0 => .error (complaint s)
  | fuel + 1 =>
    match parseCommand fuel (blanks s) with
    | .error e => .error e
    | .ok (c, t) =>
      let t := blanks t
      match t.rest with
      | '|' :: '|' :: _ => .ok ([c], t)
      | '|' :: r =>
        match parseStages fuel (skipNewlines (t.at r)) with
        | .error e => .error e
        | .ok (cs, u) => .ok (c :: cs, u)
      | _ => .ok ([c], t)

/-- One command. -/
def parseCommand (fuel : Nat) (s : Source) : Parse Command :=
  match fuel with
  | 0 => .error (complaint s)
  | fuel + 1 =>
    let withRedirects (make : List Redirect → Command) (t : Source) : Parse Command :=
      match parseRedirects fuel t with
      | .error e => .error e
      | .ok (rs, u) => .ok (make rs, u)
    let plainly (c : Command) (rs : List Redirect) : Command := if rs = [] then c else .group c rs
    let calculation? : Option (List Char × List Char) := match s.rest with
      | '(' :: '(' :: r =>
        match bracketed '(' ')' 0 none [] r with
        | some (expr, ')' :: r) => some (expr, r)
        | _ => none
      | _ => none
    match calculation? with
    | some (expr, r) => withRedirects (plainly (.calculate expr)) (s.at r)
    | none =>
    match s.rest with
    | '(' :: r =>
      match parseList fuel false (s.at r) with
      | .error e => .error e
      | .ok ([], t) => .error (complaint t)
      | .ok (cs, t) =>
        match t.rest with
        | ')' :: r => withRedirects (.subshell (.sequence cs)) (t.at r)
        | _ => .error (complaint t)
    | _ =>
      match keyword? s.rest with
      | some ("\x7b", r) =>
        match parseList fuel false (s.at r) with
        | .error e => .error e
        | .ok ([], t) => .error (complaint t)
        | .ok (cs, t) =>
          match expect "\x7d" t with
          | .error e => .error e
          | .ok u => withRedirects (.group (.sequence cs)) u
      | some ("if", r) =>
        match parseArms fuel (s.at r) with
        | .error e => .error e
        | .ok ((arms, otherwise), t) => withRedirects (.branch arms otherwise) t
      | some ("while", r) => parseLoop fuel false (s.at r)
      | some ("until", r) => parseLoop fuel true (s.at r)
      | some ("[[", r) =>
        match parseCondition fuel 0 (s.at r) with
        | .error e => .error e
        | .ok (c, t) =>
          match (blanks t).rest with
          | ']' :: ']' :: r => withRedirects (plainly (.decide c)) (t.at r)
          | _ => .error (complaint (blanks t))
      | some ("for", r) =>
        let counted? : Option (List Char × List Char) := match skipBlanks r with
          | '(' :: '(' :: r =>
            match bracketed '(' ')' 0 none [] r with
            | some (inside, ')' :: r) => some (inside, r)
            | _ => none
          | _ => none
        match counted? with
        | some (inside, r) =>
          let u := match skipBlanks r with
            | ';' :: r => s.at r
            | _ => s.at r
          match inside.splitOn ';', parseBody fuel u with
          | _, .error e => .error e
          | [start, guard, step], .ok (body, v) => withRedirects (.count start guard step body) v
          | _, .ok (_, v) => .error (complaint v)
        | none =>
        match parseWord (blanks (s.at r)) with
        | .error e => .error e
        | .ok ([.plain name], t) =>
          let t := skipNewlines t
          let items : Parse (Option (List Word)) :=
            match keyword? t.rest with
            | some ("in", r) =>
              match parseWords fuel (t.at r) with
              | .error e => .error e
              | .ok (ws, u) => .ok (some ws, u)
            | _ => .ok (none, t)
          match items with
          | .error e => .error e
          | .ok (items, u) =>
            let u := match (blanks u).rest with
              | ';' :: r => u.at r
              | _ => u
            match parseBody fuel u with
            | .error e => .error e
            | .ok (body, v) => withRedirects (.each (String.ofList name) items body) v
        | .ok (_, t) => .error (complaint t)
      | some ("case", r) =>
        match parseWord (blanks (s.at r)) with
        | .error e => .error e
        | .ok ([], t) => .error (complaint t)
        | .ok (w, t) =>
          match expect "in" t with
          | .error e => .error e
          | .ok u =>
            match parseCases fuel u with
            | .error e => .error e
            | .ok (arms, v) => withRedirects (.select w arms) v
      | some ("function", r) =>
        match parseWord (blanks (s.at r)) with
        | .error e => .error e
        | .ok ([.plain name], t) =>
          let t := match (blanks t).rest with
            | '(' :: ')' :: r => t.at r
            | _ => t
          match parseCommand fuel (skipNewlines t) with
          | .error e => .error e
          | .ok (body, u) => .ok (.define (String.ofList name) body, u)
        | .ok (_, t) => .error (complaint t)
      | some (_, _) => .error (complaint s)
      | none =>
        match parseSimple (s.rest.length + 1) ⟨[], [], [], s.line⟩ s with
        | .error e => .error e
        | .ok (⟨[], [[.plain name]], [], _⟩, t) =>
          match (blanks t).rest with
          | '(' :: r =>
            match skipBlanks r with
            | ')' :: r =>
              let start := skipNewlines (t.at r)
              match parseCommand fuel start with
              | .error e => .error e
              | .ok (body, u) =>
                if isCompound body then .ok (.define (String.ofList name) body, u)
                else .error (complaint start)
            | r => .error (complaint (t.at r))
          | _ => .ok (.simple ⟨[], [[.plain name]], [], s.line⟩, t)
        | .ok (⟨[], [], [], _⟩, t) => .error (complaint t)
        | .ok (c, t) => .ok (.simple c, t)

/-- The arms of an `if`, read after the word. -/
def parseArms (fuel : Nat) (s : Source) : Parse (List (Command × Command) × Option Command) :=
  match fuel with
  | 0 => .error (complaint s)
  | fuel + 1 =>
    match parseList fuel false s with
    | .error e => .error e
    | .ok (test, t) =>
      match expect "then" t with
      | .error e => .error e
      | .ok t =>
        match parseList fuel false t with
        | .error e => .error e
        | .ok (body, t) =>
          let arm := (Command.sequence test, Command.sequence body)
          match keyword? t.rest with
          | some ("fi", r) => .ok (([arm], none), t.at r)
          | some ("elif", r) =>
            match parseArms fuel (t.at r) with
            | .error e => .error e
            | .ok ((arms, otherwise), u) => .ok ((arm :: arms, otherwise), u)
          | some ("else", r) =>
            match parseList fuel false (t.at r) with
            | .error e => .error e
            | .ok (body, u) =>
              match expect "fi" u with
              | .error e => .error e
              | .ok v => .ok (([arm], some (.sequence body)), v)
          | _ => .error (complaint t)

/-- The commands between `do` and `done`. -/
def parseBody (fuel : Nat) (s : Source) : Parse Command :=
  match fuel with
  | 0 => .error (complaint s)
  | fuel + 1 =>
    match expect "do" s with
    | .error e => .error e
    | .ok t =>
      match parseList fuel false t with
      | .error e => .error e
      | .ok (body, u) =>
        match expect "done" u with
        | .error e => .error e
        | .ok v => .ok (.sequence body, v)

/-- A `while` or `until` loop, read after the word. -/
def parseLoop (fuel : Nat) (untilTrue : Bool) (s : Source) : Parse Command :=
  match fuel with
  | 0 => .error (complaint s)
  | fuel + 1 =>
    match parseList fuel false s with
    | .error e => .error e
    | .ok (test, t) =>
      match parseBody fuel t with
      | .error e => .error e
      | .ok (body, u) =>
        match parseRedirects fuel u with
        | .error e => .error e
        | .ok (rs, v) => .ok (.loop untilTrue (.sequence test) body rs, v)

/-- The arms of a `case`, up to its end. -/
def parseCases (fuel : Nat) (s : Source) : Parse (List (List Word × Command)) :=
  match fuel with
  | 0 => .error (complaint s)
  | fuel + 1 =>
    let s := skipNewlines s
    match keyword? s.rest with
    | some ("esac", r) => .ok ([], s.at r)
    | _ =>
      let s := match s.rest with
        | '(' :: r => s.at r
        | _ => s
      match parsePatterns fuel s with
      | .error e => .error e
      | .ok (patterns, t) =>
        match parseList fuel false t with
        | .error e => .error e
        | .ok (body, u) =>
          let arm := (patterns, Command.sequence body)
          match u.rest with
          | ';' :: ';' :: r =>
            match parseCases fuel (u.at r) with
            | .error e => .error e
            | .ok (arms, v) => .ok (arm :: arms, v)
          | _ =>
            match expect "esac" u with
            | .error e => .error e
            | .ok v => .ok ([arm], v)

end

/-- The next line of commands of a script; none at its end. -/
def parseNext (s : Source) : Parse (Option Command) :=
  let s := skipNewlines s
  match s.rest with
  | [] => .ok (none, s)
  | _ =>
    match parseList (4 * s.rest.length + 8) true s with
    | .error e => .error e
    | .ok ([], t) => .error (complaint t)
    | .ok (cs, t) =>
      match t.rest with
      | [] | '\n' :: _ => .ok (some (.sequence cs), t)
      | _ => if t.rest.length < s.rest.length && t.line ≠ s.line then .ok (some (.sequence cs), t)
             else .error (complaint t)

end ToolAgent.Shell
