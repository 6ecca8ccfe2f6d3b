import Mathlib.Data.List.Basic
import Mathlib.Data.List.TakeWhile
import ToolAgent.Text.Basic

/-!
# Trimming

A text that is trimmed is the part of it between the blanks at either end (`trims_iff`).
-/

namespace ToolAgent.Text

variable {p : Char → Bool} {cs : List Char}

theorem dropWhileEnd_of_getLast? (h : ∀ c ∈ cs.getLast?, p c = false) : dropWhileEnd p cs = cs := by
  rcases List.eq_nil_or_concat' cs with rfl | ⟨front, c, rfl⟩
  · rfl
  · have hc : p c = false := h c (by simp)
    simp [dropWhileEnd, hc]

theorem dropWhileEnd_append {back : List Char} (h : ∀ c ∈ back, p c = true) :
    dropWhileEnd p (cs ++ back) = dropWhileEnd p cs := by
  rw [dropWhileEnd, List.reverse_append,
    List.dropWhile_append_of_pos fun c hc => h c (List.mem_reverse.mp hc), dropWhileEnd]

theorem eq_dropWhileEnd_append (p : Char → Bool) (cs : List Char) :
    ∃ back, cs = dropWhileEnd p cs ++ back ∧ ∀ c ∈ back, p c = true := by
  refine ⟨(cs.reverse.takeWhile p).reverse, ?_, fun c hc => ?_⟩
  · rw [dropWhileEnd, ← List.reverse_append, List.takeWhile_append_dropWhile, List.reverse_reverse]
  · exact List.mem_takeWhile_imp (List.mem_reverse.mp hc)

theorem getLast?_dropWhileEnd : ∀ c ∈ (dropWhileEnd p cs).getLast?, p c = false := by
  intro c hc
  rw [dropWhileEnd, List.getLast?_reverse] at hc
  have hhead := List.head?_dropWhile_not p cs.reverse
  rw [Option.mem_def.mp hc] at hhead
  exact hhead

/-- What is left of a text without the blanks at either end. -/
structure Trims (text trimmed : List Char) : Prop where
  blank : ∃ front back, text = front ++ (trimmed ++ back) ∧ ∀ c ∈ front ++ back, isBlank c = true
  head : ∀ c ∈ trimmed.head?, isBlank c = false
  last : ∀ c ∈ trimmed.getLast?, isBlank c = false

theorem trims_trimChars (text : List Char) : Trims text (trimChars text) := by
  have hfront := List.takeWhile_append_dropWhile (p := isBlank) (l := text)
  obtain ⟨back, hback, hblank⟩ := eq_dropWhileEnd_append isBlank (dropBlanks text)
  refine ⟨⟨text.takeWhile isBlank, back, ?_, ?_⟩, fun c hc => ?_, getLast?_dropWhileEnd⟩
  · rw [trimChars, ← hback]
    exact hfront.symm
  · exact List.forall_mem_append.mpr ⟨fun c hc => List.mem_takeWhile_imp hc, hblank⟩
  · -- The text begins, after its blanks, with what is left.
    have hhead : (dropBlanks text).head? = some c := by
      have htrimmed : (dropWhileEnd isBlank (dropBlanks text)).head? = some c := hc
      rw [hback, List.head?_append, htrimmed, Option.some_or]
    have hopen := List.head?_dropWhile_not isBlank text
    rw [← dropBlanks, hhead] at hopen
    exact hopen

/-- **What trimming leaves.** -/
theorem trims_iff {text trimmed : List Char} : Trims text trimmed ↔ trimmed = trimChars text := by
  constructor
  · rintro ⟨⟨front, back, rfl, hblank⟩, hhead, hlast⟩
    obtain ⟨hfront, hback⟩ := List.forall_mem_append.mp hblank
    have hdropped : dropBlanks (front ++ (trimmed ++ back)) = dropBlanks (trimmed ++ back) :=
      List.dropWhile_append_of_pos hfront
    rw [trimChars, hdropped]
    cases trimmed with
    | nil =>
        rw [List.nil_append, dropBlanks, List.dropWhile_eq_nil_iff.mpr hback]
        rfl
    | cons c rest =>
        have hc : isBlank c = false := hhead c rfl
        rw [dropBlanks, List.cons_append, List.dropWhile_cons_of_neg (by simp [hc]),
          ← List.cons_append, dropWhileEnd_append hback, dropWhileEnd_of_getLast? hlast]
  · rintro rfl
    exact trims_trimChars text

/-- Nothing is left of blanks, and only of them. -/
theorem trims_nil_iff {text : List Char} : Trims text [] ↔ ∀ c ∈ text, isBlank c = true := by
  constructor
  · rintro ⟨⟨front, back, rfl, hblank⟩, -, -⟩
    exact hblank
  · intro h
    exact ⟨⟨text, [], by simp, by simpa using h⟩, by simp, by simp⟩

theorem trim_eq_iff {text trimmed : String} :
    trim text = trimmed ↔ Trims text.toList trimmed.toList := by
  rw [trims_iff, ← String.toList_inj, trim, String.toList_ofList]
  exact eq_comm

theorem trim_trim (text : String) : trim (trim text) = trim text := by
  have htrims : Trims text.toList (trim text).toList := trim_eq_iff.mp rfl
  exact trim_eq_iff.mpr ⟨⟨[], [], by simp, by simp⟩, htrims.head, htrims.last⟩

end ToolAgent.Text
