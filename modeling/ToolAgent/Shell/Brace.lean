import ToolAgent.Shell.Syntax
import ToolAgent.Text.Basic

/-!
# Braces in words

A word with a list in braces stands for several words, one for each item: `a{b,c}` for `ab` and
`ac`. So does a word with a range in braces, such as `{1..3}`. Quoted braces count as text, and so
do braces around anything else.
-/

namespace ToolAgent.Shell

/-- A word taken apart: each plain character on its own, and the other pieces. -/
abbrev Units := List (Char ⊕ Piece)

namespace Units

/-- A word taken apart. -/
def ofWord (w : Word) : Units :=
  w.flatMap fun
    | .plain cs => cs.map .inl
    | p => [.inr p]

/-- The word that units make up. -/
def toWord : Units → Word
  | [] => []
  | .inr p :: us => p :: toWord us
  | .inl c :: us =>
    match toWord us with
    | .plain cs :: ps => .plain (c :: cs) :: ps
    | ps => .plain [c] :: ps

/-- The items up to the closing brace, read after the opening one, and what follows; `depth` counts
the braces inside that are open, and `item` has the item so far, the last unit first. -/
def items : (depth : Nat) → (item : Units) → Units → Option (List Units × Units)
  | _, _, [] => none
  | depth, item, u :: us =>
    match depth, u with
    | 0, .inl '\x7d' => some ([item.reverse], us)
    | 0, .inl ',' => (items 0 [] us).map fun (more, rest) => (item.reverse :: more, rest)
    | depth + 1, .inl '\x7d' => items depth (u :: item) us
    | depth, .inl '\x7b' => items (depth + 1) (u :: item) us
    | depth, _ => items depth (u :: item) us

/-- The text of units that are all characters. -/
def text? (us : Units) : Option (List Char) :=
  us.mapM fun
    | .inl c => some c
    | .inr _ => none

/-- The integer that a text is. -/
def integer? (s : String) : Option Int :=
  match s.toList with
  | '-' :: _ | '+' :: _ => s.toInt?
  | _ => s.toNat?.map Int.ofNat

/-- The numbers from `a` to `b`, either way, in steps of `step`. -/
def span (a b : Int) (step : Nat) : List Int :=
  let step := max step 1
  (List.range ((b - a).natAbs / step + 1)).map fun i =>
    if a ≤ b then a + Int.ofNat (i * step) else a - Int.ofNat (i * step)

/-- A number with zeros up to a width. -/
def padded (width : Nat) (n : Int) : String :=
  let digits := toString n.natAbs
  let sign := if n < 0 then "-" else ""
  sign ++ Text.times (width - sign.length - digits.length) "0" ++ digits

/-- The texts of a range. -/
def range? (us : Units) : Option (List String) := do
  let ends (s : String) : Bool := Text.startsWith s "0" && s ≠ "0" || Text.startsWith s "-0"
  let make (a b : String) (step : Nat) : Option (List String) :=
    match integer? a, integer? b with
    | some m, some n =>
      let width := if ends a || ends b then max a.length b.length else 0
      some ((span m n step).map (padded width))
    | _, _ =>
      match a.toList, b.toList with
      | [c], [d] =>
        if c.isAlpha && d.isAlpha then
          some ((span c.toNat d.toNat step).map fun n => String.ofList [Char.ofNat n.toNat])
        else none
      | _, _ => none
  match (Text.splitOnText ['.', '.'] (← text? us)).map String.ofList with
  | [a, b] => make a b 1
  | [a, b, step] => (integer? step).bind fun n => make a b n.natAbs
  | _ => none

/-- The words that a word stands for. -/
def expand : (fuel : Nat) → Units → List Units
  | 0, us => [us]
  | _ + 1, [] => [[]]
  | fuel + 1, u :: us =>
    let literally : List Units := (expand fuel us).map (u :: ·)
    let each (choices : List Units) (rest : Units) : List Units :=
      choices.flatMap fun c => (expand fuel rest).map (c ++ ·)
    match u with
    | .inl '\x7b' =>
      match items 0 [] us with
      | some ([only], rest) =>
        match range? only with
        | some texts => each (texts.map fun t => t.toList.map .inl) rest
        | none => literally
      | some (several, rest) => each (several.flatMap (expand fuel)) rest
      | none => literally
    | _ => literally

end Units

/-- The words that a word with braces stands for. -/
def Word.alternatives (w : Word) : List Word :=
  let us := Units.ofWord w
  if us.contains (.inl '\x7b') then (Units.expand (us.length + 1) us).map Units.toWord else [w]

end ToolAgent.Shell
