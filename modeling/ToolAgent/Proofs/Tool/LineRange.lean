import ToolAgent.Proofs.Tool.Replacement
import ToolAgent.Tool.FileRead

/-!
# Reading a range of lines

The bounds of a range are numbers of lines; zero and below count from the end. A range that reaches
into the file, or lies behind it, or is empty is answered as it is asked: with the lines in it, or
with an error if there are none. A range that lies before the file is not (`run_lines`): the bounds
are cut off at the first line, both of them, so that the first line is read (`before_file_read`).
-/

namespace ToolAgent.FileRead

/-! ## Ranges -/

/-- The number of the line that a bound means in a file of `count` lines; the first line is 1. -/
def lineNumber (bound : Int) (count : Nat) : Int := if 0 < bound then bound else count + 1 + bound

/-- The lines with numbers from `first` to `last`. -/
def numbered (lines : List (List Char)) (first last : Int) : List (List Char) :=
  ((lines.zipIdx 1).filter fun line => first ≤ line.2 ∧ line.2 ≤ last).map Prod.fst

theorem lineIndex_eq (bound : Int) (count : Nat) :
    lineIndex bound count = (lineNumber bound count - 1).toNat := by
  rw [lineIndex, lineNumber]
  split <;> split <;> omega

theorem filter_zipIdx_eq (lines : List (List Char)) (n : Nat) (first last : Int) :
    ((lines.zipIdx n).filter fun line => first ≤ line.2 ∧ line.2 ≤ last).map Prod.fst =
      (lines.drop (first - n).toNat).take (last + 1 - max first n).toNat := by
  induction lines generalizing n with
  | nil => simp
  | cons line lines ih =>
      have hrest := ih (n + 1)
      rw [List.zipIdx_cons, List.filter_cons]
      by_cases hfirst : first ≤ n
      · have hdrop : (first - n).toNat = 0 ∧ (first - (n + 1 : Nat)).toNat = 0 := by omega
        rw [hdrop.2, List.drop_zero] at hrest
        rw [hdrop.1, List.drop_zero]
        by_cases hlast : n ≤ last
        · have htake : (last + 1 - max first n).toNat =
              (last + 1 - max first (n + 1 : Nat)).toNat + 1 := by omega
          rw [if_pos (by simp [hfirst, hlast]), List.map_cons, hrest, htake, List.take_succ_cons]
        · have htake : (last + 1 - max first n).toNat = 0 ∧
              (last + 1 - max first (n + 1 : Nat)).toNat = 0 := by omega
          rw [if_neg (by simp [hlast]), hrest, htake.1, htake.2, List.take_zero, List.take_zero]
      · have hdrop : (first - n).toNat = (first - (n + 1 : Nat)).toNat + 1 := by omega
        have hmax : max first n = max first (n + 1 : Nat) := by omega
        rw [if_neg (by simp [hfirst]), hrest, hdrop, hmax, List.drop_succ_cons]

/-- The lines of a range stand next to each other. -/
theorem numbered_eq (lines : List (List Char)) (first last : Int) :
    numbered lines first last =
      (lines.drop (first - 1).toNat).take (last + 1 - max first 1).toNat :=
  filter_zipIdx_eq lines 1 first last

/-- Whether a line with a number in the range is in a file of `count` lines. -/
def Reaches (count : Nat) (first last : Int) : Prop :=
  ∃ n : Nat, 1 ≤ n ∧ n ≤ count ∧ first ≤ n ∧ n ≤ last

theorem reaches_iff {count : Nat} {first last : Int} :
    Reaches count first last ↔ first ≤ count ∧ 1 ≤ last ∧ first ≤ last ∧ 1 ≤ count := by
  constructor
  · rintro ⟨n, hone, hcount, hfirst, hlast⟩
    omega
  · rintro ⟨hfirst, hlast, hrange, hcount⟩
    exact ⟨(max first 1).toNat, by omega, by omega, by omega, by omega⟩

variable {lines : List (List Char)} {first last : Int}

/-- The lines of a range that reaches into the file are selected. -/
theorem selectLines_of_reaches
    (h : Reaches lines.length (lineNumber first lines.length) (lineNumber last lines.length)) :
    selectLines lines first last =
      .ok (numbered lines (lineNumber first lines.length) (lineNumber last lines.length)) := by
  obtain ⟨hfirst, hlast, hrange, hcount⟩ := reaches_iff.mp h
  rw [selectLines, lineIndex_eq, lineIndex_eq, numbered_eq]
  generalize lineNumber first lines.length = low at *
  generalize lineNumber last lines.length = high at *
  rw [if_neg (by omega), if_neg (by omega), if_neg (by omega)]
  congr 1
  rw [List.take_eq_take_iff, List.length_drop]
  omega

/-- A range that does not reach into the file is refused, unless it lies before it. -/
theorem selectLines_of_not_reaches (hlines : lines ≠ [])
    (h : ¬ Reaches lines.length (lineNumber first lines.length) (lineNumber last lines.length))
    (hplace : 1 ≤ lineNumber last lines.length ∨ 1 < lineNumber first lines.length) :
    ∃ fault, selectLines lines first last = .error fault := by
  have hcount : 0 < lines.length := List.length_pos_iff.mpr hlines
  rw [reaches_iff] at h
  rw [selectLines, lineIndex_eq, lineIndex_eq]
  generalize lineNumber first lines.length = low at *
  generalize lineNumber last lines.length = high at *
  rw [if_neg (by omega)]
  by_cases houtside : lines.length ≤ (low - 1).toNat
  · exact ⟨_, if_pos houtside⟩
  · rw [if_neg houtside, if_pos (by omega)]
    exact ⟨_, rfl⟩

/-- Of a range before the file the first line is selected, though it is not in the range. -/
theorem selectLines_of_before (hlines : lines ≠ [])
    (hfirst : lineNumber first lines.length ≤ 1) (hlast : lineNumber last lines.length < 1) :
    selectLines lines first last = .ok (lines.take 1) := by
  have hcount : 0 < lines.length := List.length_pos_iff.mpr hlines
  have hstart : lineIndex first lines.length = 0 := by
    rw [lineIndex_eq]
    omega
  have hstop : lineIndex last lines.length = 0 := by
    rw [lineIndex_eq]
    omega
  rw [selectLines, hstart, hstop]
  rw [if_neg (by omega), if_neg (by omega), if_neg (by omega), Nat.zero_min, List.drop_zero]

/-- By default all lines are selected. -/
theorem selectLines_default (lines : List (List Char)) : selectLines lines 1 (-1) = .ok lines := by
  have hstart : lineIndex 1 lines.length = 0 := rfl
  have hstop : lineIndex (-1) lines.length = lines.length - 1 := by
    rw [lineIndex, if_pos (by decide)]
    omega
  rw [selectLines, hstart, hstop]
  by_cases hcount : lines.length = 0
  · rw [if_pos hcount, List.length_eq_zero_iff.mp hcount]
  · rw [if_neg hcount, if_neg (by omega), if_neg (by omega), Nat.min_self, List.drop_zero,
      List.take_of_length_le (by omega)]

/-! ## Words and indices -/

/-- The arithmetic that turns a bound into an index leaves no word: a bound that counts from the
end is added to the number of lines in 64 bits, one that counts from the start is lowered in 32. -/
structure FitsWords (bound : Int32) (count : Nat) : Prop where
  fromEnd : bound.toInt ≤ 0 →
    (Int64.ofNat count + bound.toInt64).toInt = count + bound.toInt
  fromStart : 0 < bound.toInt → (bound - 1).toInt = bound.toInt - 1
  index : lineIndex bound.toInt count ≤ 0xFFFFFFFFFFFFFFFF

theorem fitsWords {count : Nat} (h : count ≤ 0x7FFFFFFFFFFFFFFF) (bound : Int32) :
    FitsWords bound count where
  fromEnd hbound := by
    have hlow := bound.le_toInt
    rw [Int64.toInt_add, Int64.toInt_ofNat_of_lt (Nat.lt_succ_of_le h), Int32.toInt_toInt64]
    rw [Int.bmod_eq_of_le] <;> omega
  fromStart hbound := by
    have hhigh := bound.toInt_lt
    have hone : (1 : Int32).toInt = 1 := rfl
    rw [Int32.toInt_sub, hone, Int.bmod_eq_of_le] <;> omega
  index := by
    have hhigh := bound.toInt_lt
    rw [lineIndex]
    split <;> omega

/-- The indices of a range mark off a part of `count` lines. -/
structure MarksOff (count : Nat) (first last : Int) : Prop where
  ordered : lineIndex first count ≤ min (lineIndex last count) (count - 1)
  inside : min (lineIndex last count) (count - 1) < count

theorem marksOff_of_selectLines (hlines : lines ≠ []) {selected : List (List Char)}
    (h : selectLines lines first last = .ok selected) : MarksOff lines.length first last := by
  have hcount : 0 < lines.length := List.length_pos_iff.mpr hlines
  rw [selectLines, if_neg (by omega)] at h
  split at h
  · cases h
  · split at h
    · cases h
    · exact ⟨by omega, by omega⟩

/-! ## In a file -/

/-- Lines as they are put out. -/
def joined (lines : List (List Char)) : Output := .text (String.ofList (['\n'].intercalate lines))

/-- An answer to a range as it is meant: the lines in the range, or an error if there are none. -/
structure Answers (lines : List (List Char)) (low high : Int) (answer : Except Error Output) :
    Prop where
  reached : Reaches lines.length low high → answer = .ok (joined (numbered lines low high))
  missed : ¬ Reaches lines.length low high → ∃ e, answer = .error e

section File

variable {w : Workplace} {tree : Entry} {path : String} {location : Location} {content : Bytes}
  {text : List Char}

theorem run_lines_eq
    (hfile : Files.find tree w.base (w.resolve path) = .ok (location, .file content))
    (htext : Utf8.decode? content = some text) (first last : Option Int32) :
    run w tree (.lines path first last) =
      match selectLines (Text.linesOf text) (first.getD 1).toInt (last.getD (-1)).toInt with
      | .ok lines => .ok (joined lines)
      | .error fault => .error (.tool fault.message) := by
  have hread := Files.readText_of_find hfile htext
  rw [run, FileRead.path, hread]
  dsimp only
  rw [readLines, String.toList_ofList, firstLine, lastLine]
  cases selectLines (Text.linesOf text) (first.getD 1).toInt (last.getD (-1)).toInt <;> rfl

/-- **What reading a range of lines gives.** In a file with at least one line let `low` and `high`
be the numbers of the lines that the bounds mean; left out they are the first line and the last.

* The answer is the one that is meant, the lines from `low` to `high` or an error if there are none,
  if and only if the range does not lie before the file.
* If it lies before the file, the answer is the first line.
* No bound leaves the words it is computed in, and lines are taken only by indices in the file. -/
theorem run_lines
    (hfile : Files.find tree w.base (w.resolve path) = .ok (location, .file content))
    (htext : Utf8.decode? content = some text) (hlines : Text.linesOf text ≠ [])
    (first last : Option Int32) :
    let lines := Text.linesOf text
    let low := lineNumber (first.getD 1).toInt lines.length
    let high := lineNumber (last.getD (-1)).toInt lines.length
    let answer := run w tree (.lines path first last)
    (Answers lines low high answer ↔ 1 ≤ high ∨ 1 < low) ∧
    (high < 1 → low ≤ 1 → answer = .ok (joined (lines.take 1))) ∧
    (lines.length ≤ 0x7FFFFFFFFFFFFFFF →
      FitsWords (first.getD 1) lines.length ∧ FitsWords (last.getD (-1)) lines.length) ∧
    (answer.isOk → MarksOff lines.length (first.getD 1).toInt (last.getD (-1)).toInt) := by
  intro lines low high answer
  have hanswer : answer = match selectLines lines (first.getD 1).toInt (last.getD (-1)).toInt with
      | .ok lines => .ok (joined lines)
      | .error fault => .error (.tool fault.message) := run_lines_eq hfile htext first last
  have hbefore : high < 1 → low ≤ 1 → answer = .ok (joined (lines.take 1)) := by
    intro hhigh hlow
    rw [hanswer, selectLines_of_before hlines hlow hhigh]
  refine ⟨⟨fun hmeant => ?_, fun hplace => ⟨fun hreaches => ?_, fun hmisses => ?_⟩⟩, hbefore,
    fun hcount => ⟨fitsWords hcount _, fitsWords hcount _⟩, fun hok => ?_⟩
  · -- A range before the file reaches no line, and still the first one comes back.
    by_contra hplace
    have hmisses : ¬ Reaches lines.length low high := by
      rw [reaches_iff]
      omega
    obtain ⟨e, herror⟩ := hmeant.missed hmisses
    rw [hbefore (by omega) (by omega)] at herror
    cases herror
  · rw [hanswer, selectLines_of_reaches hreaches]
  · obtain ⟨fault, hfault⟩ := selectLines_of_not_reaches hlines hmisses hplace
    exact ⟨.tool fault.message, by rw [hanswer, hfault]⟩
  · cases hselect : selectLines lines (first.getD 1).toInt (last.getD (-1)).toInt with
    | ok selected => exact marksOff_of_selectLines hlines hselect
    | error fault =>
        rw [hanswer, hselect] at hok
        cases hok

end File

open FileWrite (desk page find_page)

/-- The last two of three lines are read. -/
theorem run_lines_last_two :
    Files.find (page "one\ntwo\nthree\n") desk.base (desk.resolve "f") =
        .ok (["f"], .file (Utf8.ofString "one\ntwo\nthree\n")) ∧
      Text.linesOf "one\ntwo\nthree\n".toList ≠ [] ∧
      run desk (page "one\ntwo\nthree\n") (.lines "f" (some (-2)) none) =
        .ok (.text "two\nthree") := by
  have htext : Utf8.decode? (Utf8.ofString "one\ntwo\nthree\n") =
      some "one\ntwo\nthree\n".toList := by decide +kernel
  have hlines : Text.linesOf "one\ntwo\nthree\n".toList ≠ [] := by decide +kernel
  have hmeant := (run_lines (find_page _) htext hlines (some (-2)) none).1.mpr
    (.inl (by decide +kernel))
  refine ⟨find_page _, hlines, ?_⟩
  rw [hmeant.reached ⟨2, by decide +kernel⟩]
  decide +kernel

/-- In a file with one line the range from the first line to the second to last has no line; the
first line is read. -/
theorem before_file_read :
    Text.linesOf "one\n".toList = ["one".toList] ∧
      ¬ Reaches 1 (lineNumber 1 1) (lineNumber (-2) 1) ∧
      numbered ["one".toList] (lineNumber 1 1) (lineNumber (-2) 1) = [] ∧
      run desk (page "one\n") (.lines "f" (some 1) (some (-2))) = .ok (.text "one") := by
  have htext : Utf8.decode? (Utf8.ofString "one\n") = some "one\n".toList := by decide +kernel
  have hlines : Text.linesOf "one\n".toList = ["one".toList] := by decide +kernel
  refine ⟨hlines, ?_, by decide +kernel, ?_⟩
  · rw [reaches_iff]
    decide +kernel
  · have hselect : selectLines ["one".toList] 1 (-2) = .ok ["one".toList] := by decide +kernel
    have hbounds : ((some 1 : Option Int32).getD 1).toInt = 1 ∧
      ((some (-2) : Option Int32).getD (-1)).toInt = -2 := by decide +kernel
    rw [run_lines_eq (find_page "one\n") htext, hlines, hbounds.1, hbounds.2, hselect]
    rfl

end ToolAgent.FileRead
