import ToolAgent.Text.Basic

/-!
# Patterns

Two small languages of patterns: the shell's, for file names and `case`, and regular expressions,
for the programs that search text.
-/

namespace ToolAgent.Shell

/-! ### Sets of characters -/

/-- A set between brackets: single characters and ranges, or all others. -/
structure CharSet where
  negated : Bool
  ranges : List (Char × Char)
deriving DecidableEq, Repr

/-- Whether a character is in the set. -/
def CharSet.contains (s : CharSet) (c : Char) : Bool :=
  (s.ranges.any fun (a, b) => a ≤ c && c ≤ b) != s.negated

/-- The ranges of a class such as `[:digit:]`. -/
def classRanges (name : String) : List (Char × Char) :=
  match name with
  | "digit" => [('0', '9')]
  | "upper" => [('A', 'Z')]
  | "lower" => [('a', 'z')]
  | "alpha" => [('A', 'Z'), ('a', 'z')]
  | "alnum" => [('0', '9'), ('A', 'Z'), ('a', 'z')]
  | "space" => [('\t', '\r'), (' ', ' ')]
  | "blank" => [('\t', '\t'), (' ', ' ')]
  | "punct" => [('!', '/'), (':', '@'), ('[', '\x60'), ('\x7b', '~')]
  | "xdigit" => [('0', '9'), ('A', 'F'), ('a', 'f')]
  | "cntrl" => [('\x00', '\x1f'), ('\x7f', '\x7f')]
  | "print" => [(' ', '~')]
  | "graph" => [('!', '~')]
  | _ => []

/-- The members of a set, read after its opening bracket: what follows the closing one, or none if
there is no closing one. `first` holds for the first member, which may be a closing bracket. -/
def setMembers : (fuel : Nat) → (first : Bool) → List (Char × Char) → List Char →
    Option (List (Char × Char) × List Char)
  | 0, _, _, _ => none
  | _ + 1, _, _, [] => none
  | fuel + 1, first, acc, c :: r =>
    if c = ']' && !first then some (acc, r)
    else match c, r with
      | '[', ':' :: r' =>
        let name := r'.takeWhile (· ≠ ':')
        match r'.drop name.length with
        | ':' :: ']' :: r'' => setMembers fuel false (acc ++ classRanges (String.ofList name)) r''
        | _ => setMembers fuel false (acc ++ [('[', '[')]) r
      | a, '-' :: b :: r' =>
        if b = ']' then setMembers fuel false (acc ++ [(a, a)]) r
        else setMembers fuel false (acc ++ [(a, b)]) r'
      | a, r => setMembers fuel false (acc ++ [(a, a)]) r

/-- A set, read after its opening bracket. -/
def parseSet (negations : List Char) (cs : List Char) : Option (CharSet × List Char) :=
  let (negated, body) := match cs with
    | c :: r => if negations.contains c then (true, r) else (false, c :: r)
    | [] => (false, [])
  (setMembers (body.length + 1) true [] body).map fun (ranges, r) => (⟨negated, ranges⟩, r)

/-! ### File name patterns -/

/-- An element of a file name pattern. -/
inductive Glob
  | literal (c : Char)
  | anyOne
  | anyRun
  | oneOf (s : CharSet)
deriving DecidableEq, Repr

/-- The pattern of characters of which some are quoted. -/
def Glob.ofChars : (fuel : Nat) → List (Char × Bool) → List Glob
  | 0, _ => []
  | _ + 1, [] => []
  | fuel + 1, (c, quoted) :: r =>
    if quoted then .literal c :: ofChars fuel r
    else if c = '*' then .anyRun :: ofChars fuel r
    else if c = '?' then .anyOne :: ofChars fuel r
    else if c = '[' then
      match parseSet ['!', '^'] (r.map (·.1)) with
      | some (s, rest) => .oneOf s :: ofChars fuel (r.drop (r.length - rest.length))
      | none => .literal c :: ofChars fuel r
    else .literal c :: ofChars fuel r

/-- The pattern that characters make up; a quoted one stands for itself. -/
def Glob.parse (cs : List (Char × Bool)) : List Glob := Glob.ofChars (cs.length + 1) cs

/-- Whether a pattern can match more than its own text. -/
def Glob.isActive (gs : List Glob) : Bool :=
  gs.any fun
    | .literal _ => false
    | _ => true

/-- Whether a text is matched as a whole. -/
def Glob.accepts : List Glob → List Char → Bool
  | [], cs => cs.isEmpty
  | .anyRun :: gs, [] => accepts gs []
  | .anyRun :: gs, c :: cs => accepts gs (c :: cs) || accepts (.anyRun :: gs) cs
  | _ :: _, [] => false
  | .literal d :: gs, c :: cs => d == c && accepts gs cs
  | .anyOne :: gs, _ :: cs => accepts gs cs
  | .oneOf s :: gs, c :: cs => s.contains c && accepts gs cs
termination_by gs cs => gs.length + cs.length

/-- Whether a pattern matches a text. -/
def Glob.matchesText (pattern : List (Char × Bool)) (text : String) : Bool :=
  Glob.accepts (Glob.parse pattern) text.toList

/-! ### Regular expressions -/

/-- What one place of a regular expression accepts. -/
inductive Atom
  | char (c : Char)
  | any
  | set (s : CharSet)
deriving DecidableEq, Repr

/-- Whether a character fits a single place of an expression. -/
def Atom.accepts (foldCase : Bool) : Atom → Char → Bool
  | char d, c => if foldCase then d.toLower == c.toLower else d == c
  | any, _ => true
  | set s, c => s.contains c || (foldCase && (s.contains c.toLower || s.contains c.toUpper))

/-- An element of a regular expression. -/
inductive Regex.Item
  | once (a : Atom)
  | many (a : Atom)
  | some (a : Atom)
  | optional (a : Atom)
  | start
  | stop
deriving DecidableEq, Repr

/-- A regular expression: alternatives, each a sequence of items. -/
abbrev Regex := List (List Regex.Item)

namespace Regex

/-- Attaches what follows an atom. -/
def suffix (extended : Bool) (a : Atom) (cs : List Char) : Item × List Char :=
  match cs with
  | '*' :: r => (.many a, r)
  | '+' :: r => if extended then (.some a, r) else (.once a, cs)
  | '?' :: r => if extended then (.optional a, r) else (.once a, cs)
  | '\\' :: '+' :: r => if extended then (.once a, cs) else (.some a, r)
  | '\\' :: '?' :: r => if extended then (.once a, cs) else (.optional a, r)
  | _ => (.once a, cs)

/-- The items of a text; `current` has the last alternative so far, its last item first. -/
def parseFrom : (fuel : Nat) → (extended : Bool) → (current : List Item) → List Char → Regex
  | 0, _, current, _ => [current.reverse]
  | _ + 1, _, current, [] => [current.reverse]
  | fuel + 1, extended, current, c :: r =>
    let put (a : Atom) (r : List Char) : Regex :=
      let (item, r) := suffix extended a r
      parseFrom fuel extended (item :: current) r
    if c = '\\' then
      match r with
      | '|' :: r' =>
        if extended then put (.char '|') r' else current.reverse :: parseFrom fuel extended [] r'
      | 'n' :: r' => put (.char '\n') r'
      | 't' :: r' => put (.char '\t') r'
      | d :: r' => put (.char d) r'
      | [] => put (.char '\\') []
    else if c = '|' && extended then current.reverse :: parseFrom fuel extended [] r
    else if c = '.' then put .any r
    else if c = '[' then
      match parseSet ['^'] r with
      | some (s, r') => put (.set s) r'
      | none => put (.char '[') r
    else if c = '^' && current.isEmpty then parseFrom fuel extended (.start :: current) r
    else if c = '$' && (r.isEmpty || (extended && r.head? == some '|')) then
      parseFrom fuel extended (.stop :: current) r
    else put (.char c) r

/-- The expression of a text, in the extended notation or the basic one. -/
def parse (extended : Bool) (text : String) : Regex :=
  parseFrom (text.length + 1) extended [] text.toList

/-- A text that is taken as it is. -/
def literal (text : String) : Regex := [text.toList.map fun c => .once (.char c)]

/-- The longest match of the items at the start of a text: how many characters it takes. `atStart`
holds at the start of a line. -/
def matchItems (fold : Bool) : List Item → (atStart : Bool) → List Char → Option Nat
  | [], _, _ => some 0
  | .start :: items, atStart, cs => if atStart then matchItems fold items atStart cs else none
  | .stop :: items, atStart, cs => if cs.isEmpty then matchItems fold items atStart cs else none
  | .once _ :: _, _, [] => none
  | .once a :: items, _, c :: cs =>
    if a.accepts fold c then (matchItems fold items false cs).map (· + 1) else none
  | .optional _ :: items, atStart, [] => matchItems fold items atStart []
  | .optional a :: items, atStart, c :: cs =>
    let taken :=
      if a.accepts fold c then (matchItems fold items false cs).map (· + 1) else none
    match taken with
    | some n => some n
    | none => matchItems fold items atStart (c :: cs)
  | .many _ :: items, atStart, [] => matchItems fold items atStart []
  | .many a :: items, atStart, c :: cs =>
    let taken :=
      if a.accepts fold c then (matchItems fold (.many a :: items) false cs).map (· + 1) else none
    match taken with
    | some n => some n
    | none => matchItems fold items atStart (c :: cs)
  | .some _ :: _, _, [] => none
  | .some a :: items, _, c :: cs =>
    if a.accepts fold c then (matchItems fold (.many a :: items) false cs).map (· + 1) else none
termination_by items _ cs => 2 * cs.length + items.length

/-- The longest match at the start of a text. -/
def matchHere (fold : Bool) (re : Regex) (atStart : Bool) (cs : List Char) : Option Nat :=
  (re.filterMap (matchItems fold · atStart cs)).max?

/-- Whether a line has a match. -/
def hasMatch (fold : Bool) (re : Regex) : (atStart : Bool) → List Char → Bool
  | atStart, [] => (matchHere fold re atStart []).isSome
  | atStart, c :: cs => (matchHere fold re atStart (c :: cs)).isSome || hasMatch fold re false cs

/-- The matches in a line that are not empty, from left to right. -/
def findMatches (fold : Bool) (re : Regex) (atStart : Bool) (cs : List Char) : List (List Char) :=
  match cs with
  | [] => []
  | c :: r =>
    match matchHere fold re atStart (c :: r) with
    | some (n + 1) => (c :: r).take (n + 1) :: findMatches fold re false (r.drop n)
    | _ => findMatches fold re false r
termination_by cs.length
decreasing_by all_goals simp only [List.length_cons, List.length_drop]; omega

/-- The parts of a line: what is not matched as it is, matches replaced by `f`; at most `limit` of
them. -/
def replaceMatches (re : Regex) (f : List Char → List Char) (limit : Nat) (atStart : Bool)
    (cs : List Char) : List Char :=
  match limit, cs with
  | 0, cs => cs
  | _ + 1, [] => if (matchHere false re atStart []).isSome then f [] else []
  | limit + 1, c :: r =>
    match matchHere false re atStart (c :: r) with
    | some (n + 1) => f ((c :: r).take (n + 1)) ++ replaceMatches re f limit false (r.drop n)
    | some 0 => f [] ++ c :: replaceMatches re f limit false r
    | none => c :: replaceMatches re f (limit + 1) false r
termination_by cs.length
decreasing_by all_goals simp only [List.length_cons, List.length_drop]; omega

end Regex

end ToolAgent.Shell
