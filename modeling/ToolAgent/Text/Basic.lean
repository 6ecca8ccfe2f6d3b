/-!
# Text

The operations on text that the rest of the library is written with: blanks, trimming, words,
lines, cutting at a separator, replacing one text by another. Each works on the characters of a
text (`List Char`); the versions on `String` below them only pack and unpack.

A *blank* is a character with the Unicode property `White_Space`. A *line* ends at a line feed; a
carriage return just before the line feed belongs to the line end, and a text that ends with a line
end has no empty line after it.
-/

namespace ToolAgent.Text

/-- The characters with the Unicode property `White_Space`. -/
def isBlank (c : Char) : Bool :=
  let n := c.toNat
  (9 ≤ n && n ≤ 13) || n == 0x20 || n == 0x85 || n == 0xA0 || n == 0x1680
    || (0x2000 ≤ n && n ≤ 0x200A) || n == 0x2028 || n == 0x2029 || n == 0x202F || n == 0x205F
    || n == 0x3000

/-! ### Trimming -/

/-- The text without the blanks at its start. -/
def dropBlanks (cs : List Char) : List Char := cs.dropWhile isBlank

/-- The list without the characters at its end that satisfy `p`. -/
def dropWhileEnd (p : Char → Bool) (cs : List Char) : List Char :=
  (cs.reverse.dropWhile p).reverse

/-- The text without the blanks at either end. -/
def trimChars (cs : List Char) : List Char := dropWhileEnd isBlank (dropBlanks cs)

/-- Whether a text has nothing but blanks. -/
def allBlank (cs : List Char) : Bool := cs.all isBlank

/-! ### Words and lines -/

/-- The maximal runs of characters that are not blank, in order. -/
def wordsOf (cs : List Char) : List (List Char) :=
  match h : dropBlanks cs with
  | c :: r => (c :: r.takeWhile (!isBlank ·)) :: wordsOf (r.dropWhile (!isBlank ·))
  | [] => []
termination_by cs.length
decreasing_by
  have h₁ : (dropBlanks cs).length ≤ cs.length := (List.dropWhile_sublist _).length_le
  have h₂ := (List.dropWhile_sublist (fun c => !isBlank c) (l := r)).length_le
  rw [h, List.length_cons] at h₁
  omega

/-- A line without the carriage return at its end. -/
def dropReturn (line : List Char) : List Char :=
  if line.getLast? = some '\r' then line.dropLast else line

/-- The lines of a text, each without its line end. -/
def linesOf (cs : List Char) : List (List Char) :=
  let pieces := cs.splitOn '\n'
  match pieces.getLast? with
  | some [] => pieces.dropLast.map dropReturn
  | some piece => pieces.dropLast.map dropReturn ++ [piece]
  | none => []

/-- The lines that are complete, each without its end, and what is left after the last of them. -/
def completeLines (ends : α → Bool) : List α → List (List α) × List α
  | [] => ([], [])
  | c :: cs =>
    let (lines, rest) := completeLines ends cs
    if ends c then ([] :: lines, rest)
    else match lines with
      | line :: lines => ((c :: line) :: lines, rest)
      | [] => ([], c :: rest)

/-! ### Looking for a text -/

/-- What follows `pat` at the start of the text. -/
def after? : (pat cs : List Char) → Option (List Char)
  | [], cs => some cs
  | _ :: _, [] => none
  | p :: pat, c :: cs => if p = c then after? pat cs else none

/-- The text before and after the first place where `pat` stands. -/
def cut? (pat : List Char) : List Char → Option (List Char × List Char)
  | [] => if pat = [] then some ([], []) else none
  | c :: cs =>
    match after? pat (c :: cs) with
    | some rest => some ([], rest)
    | none => (cut? pat cs).map fun (before, rest) => (c :: before, rest)

/-- Whether `pat` stands anywhere in the text. -/
def hasPart (pat cs : List Char) : Bool := (cut? pat cs).isSome

theorem length_of_after? {pat cs rest : List Char} (h : after? pat cs = some rest) :
    pat.length + rest.length = cs.length := by
  induction pat generalizing cs with
  | nil => simp_all [after?]
  | cons p pat ih =>
    cases cs with
    | nil => simp [after?] at h
    | cons c cs =>
      simp only [after?] at h
      split at h
      · have := ih h
        simp only [List.length_cons]
        omega
      · simp at h

theorem length_of_cut? {pat cs before rest : List Char} (h : cut? pat cs = some (before, rest)) :
    before.length + pat.length + rest.length = cs.length := by
  induction cs generalizing before rest with
  | nil =>
    simp only [cut?] at h
    split at h
    · simp_all
    · simp at h
  | cons c cs ih =>
    simp only [cut?] at h
    split at h
    · next hr =>
      have := length_of_after? hr
      cases h
      simpa using this
    · obtain ⟨⟨b, r⟩, hb, he⟩ := Option.map_eq_some_iff.1 h
      have := ih hb
      cases he
      simp only [List.length_cons]
      omega

/-- The text with `new` in place of every occurrence of the non-empty `pat`, found from the left
without overlaps. -/
def replaceIn (pat new : List Char) (cs : List Char) : List Char :=
  if hp : pat = [] then cs
  else match h : cut? pat cs with
    | none => cs
    | some (before, rest) => before ++ new ++ replaceIn pat new rest
termination_by cs.length
decreasing_by
  have := length_of_cut? h
  have := List.length_pos_iff.2 hp
  omega

/-- The pieces of a text between the occurrences of the non-empty `pat`, found from the left
without overlaps. -/
def splitOnText (pat : List Char) (cs : List Char) : List (List Char) :=
  if hp : pat = [] then [cs]
  else match h : cut? pat cs with
    | none => [cs]
    | some (before, rest) => before :: splitOnText pat rest
termination_by cs.length
decreasing_by
  have := length_of_cut? h
  have := List.length_pos_iff.2 hp
  omega

/-! ### On strings -/

/-- The text without the blanks at either end. -/
def trim (s : String) : String := String.ofList (trimChars s.toList)

/-- Whether a text is empty once trimmed. -/
def isBlankText (s : String) : Bool := allBlank s.toList

/-- The maximal runs of characters that are not blank. -/
def words (s : String) : List String := (wordsOf s.toList).map String.ofList

/-- The lines of a text. -/
def lines (s : String) : List String := (linesOf s.toList).map String.ofList

/-- Whether `pat` stands anywhere in `s`. -/
def contains (s pat : String) : Bool := hasPart pat.toList s.toList

/-- Whether `s` begins with `pat`. -/
def startsWith (s pat : String) : Bool := (after? pat.toList s.toList).isSome

/-- Whether `s` ends with `pat`. -/
def endsWith (s pat : String) : Bool := (after? pat.toList.reverse s.toList.reverse).isSome

/-- What follows `pat` at the start of `s`. -/
def dropStart? (s pat : String) : Option String := (after? pat.toList s.toList).map String.ofList

/-- The text before and after the first place where `pat` stands. -/
def cut (s pat : String) : Option (String × String) :=
  (cut? pat.toList s.toList).map fun (before, rest) => (String.ofList before, String.ofList rest)

/-- The text with every occurrence of `pat` replaced. -/
def replace (s pat new : String) : String :=
  String.ofList (replaceIn pat.toList new.toList s.toList)

/-- The text repeated `n` times. -/
def times (n : Nat) (s : String) : String := String.ofList (List.replicate n s.toList).flatten

end ToolAgent.Text
