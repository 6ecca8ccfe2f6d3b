import ToolAgent.Proofs.Text.Words

/-!
# Complete lines

How `completeLines` goes on when more of a text arrives: what is left after the complete lines is
all that has to be kept (`completeLines_append`). The pieces of a text, and its lines, are the
complete ones and what is left (`splitOnP_eq`, `linesOf_eq`). So lines that are added to a closed
text, one that is empty or ends with a line end, come after the lines that it has
(`Closed.linesOf_append`).
-/

namespace ToolAgent.Text

variable {α : Type} {ends : α → Bool}

theorem completeLines_of_none {xs : List α} (h : ∀ x ∈ xs, ends x = false) :
    completeLines ends xs = ([], xs) := by
  induction xs with
  | nil => rfl
  | cons x xs ih =>
      obtain ⟨hx, hxs⟩ := List.forall_mem_cons.mp h
      rw [completeLines, ih hxs]
      simp only [hx]
      rfl

/-- **What is left of a text stands for it** when more arrives. -/
theorem completeLines_append (xs ys : List α) :
    completeLines ends (xs ++ ys) =
      ((completeLines ends xs).1 ++ (completeLines ends ((completeLines ends xs).2 ++ ys)).1,
        (completeLines ends ((completeLines ends xs).2 ++ ys)).2) := by
  induction xs with
  | nil => rfl
  | cons x xs ih =>
      rw [List.cons_append, completeLines, completeLines, ih]
      obtain ⟨lines, rest⟩ := completeLines ends xs
      cases hx : ends x with
      | true => simp
      | false =>
          cases lines with
          | nil => simp [completeLines, hx]
          | cons line lines => simp

theorem completeLines_line {line : List α} {last : α} (hline : ∀ x ∈ line, ends x = false)
    (hlast : ends last = true) : completeLines ends (line ++ [last]) = ([line], []) := by
  induction line with
  | nil =>
      rw [List.nil_append, completeLines, hlast]
      rfl
  | cons x line ih =>
      obtain ⟨hx, hline⟩ := List.forall_mem_cons.mp hline
      rw [List.cons_append, completeLines, ih hline]
      simp only [hx]
      rfl

theorem completeLines_line_append {line : List α} {last : α} (hline : ∀ x ∈ line, ends x = false)
    (hlast : ends last = true) (more : List α) : completeLines ends (line ++ last :: more) =
      (line :: (completeLines ends more).1, (completeLines ends more).2) := by
  rw [List.append_cons, completeLines_append, completeLines_line hline hlast]
  rfl

/-- What is left is part of the text, and has no line end. -/
theorem mem_of_mem_rest {xs : List α} {x : α} (hx : x ∈ (completeLines ends xs).2) :
    x ∈ xs ∧ ends x = false := by
  induction xs with
  | nil => cases hx
  | cons first xs ih =>
      rw [completeLines] at hx
      generalize completeLines ends xs = cut at hx ih
      obtain ⟨lines, rest⟩ := cut
      have hlater : x ∈ rest → x ∈ first :: xs ∧ ends x = false := by
        intro hmem
        obtain ⟨hxs, hends⟩ := ih hmem
        exact ⟨List.mem_cons_of_mem first hxs, hends⟩
      cases hfirst : ends first with
      | true =>
          rw [hfirst] at hx
          exact hlater hx
      | false =>
          rw [hfirst] at hx
          cases lines with
          | nil =>
              rcases List.mem_cons.mp hx with rfl | hx
              · exact ⟨List.mem_cons_self, hfirst⟩
              · exact hlater hx
          | cons line lines => exact hlater hx

/-! ## Pieces and lines -/

/-- The pieces of a text are its complete lines and what is left after them. -/
theorem splitOnP_eq (p : Char → Bool) (cs : List Char) :
    cs.splitOnP p = (completeLines p cs).1 ++ [(completeLines p cs).2] := by
  induction cs with
  | nil => rfl
  | cons c cs ih =>
      rw [completeLines]
      generalize completeLines p cs = cut at ih ⊢
      obtain ⟨lines, rest⟩ := cut
      cases hc : p c with
      | true =>
          rw [splitOnP_cons_of_pos hc, ih]
          rfl
      | false =>
          cases lines with
          | nil => exact splitOnP_cons_of_neg hc ih
          | cons line lines => exact splitOnP_cons_of_neg hc ih

theorem linesOf_eq (cs : List Char) :
    linesOf cs = (completeLines (· == '\n') cs).1.map dropReturn ++
      if (completeLines (· == '\n') cs).2 = [] then [] else [(completeLines (· == '\n') cs).2] := by
  rw [linesOf, List.splitOn_eq_splitOnP, splitOnP_eq, List.getLast?_concat, List.dropLast_concat]
  split <;> simp_all

theorem dropReturn_of_notMem {line : List Char} (h : '\r' ∉ line) : dropReturn line = line := by
  rw [dropReturn, if_neg fun hlast => h (List.mem_of_getLast? hlast)]

/-! ## Closed texts -/

/-- A text is empty or ends with a line end. -/
def Closed (cs : List Char) : Prop := cs = [] ∨ cs.getLast? = some '\n'

theorem closed_concat (cs : List Char) : Closed (cs ++ ['\n']) := .inr List.getLast?_concat

theorem completeLines_concat (cs : List Char) :
    completeLines (· == '\n') (cs ++ ['\n']) =
      ((completeLines (· == '\n') cs).1 ++ [(completeLines (· == '\n') cs).2], []) := by
  have hrest : ∀ c ∈ (completeLines (· == '\n') cs).2, (c == '\n') = false :=
    fun c hc => (mem_of_mem_rest hc).2
  rw [completeLines_append, completeLines_line hrest rfl]

/-- A text is closed if and only if nothing is left after its complete lines. -/
theorem closed_iff {cs : List Char} : Closed cs ↔ (completeLines (· == '\n') cs).2 = [] := by
  rcases List.eq_nil_or_concat cs with rfl | ⟨front, c, rfl⟩
  · exact iff_of_true (.inl rfl) rfl
  · rw [List.concat_eq_append]
    by_cases hc : c = '\n'
    · subst hc
      exact iff_of_true (closed_concat front) (by rw [completeLines_concat])
    · refine iff_of_false ?_ ?_
      · rintro (hempty | hlast)
        · exact List.append_ne_nil_of_right_ne_nil front (List.cons_ne_nil c []) hempty
        · rw [List.getLast?_concat] at hlast
          exact hc (Option.some.inj hlast)
      · have hopen : ∀ x ∈ (completeLines (· == '\n') front).2 ++ [c], (x == '\n') = false := by
          intro x hx
          rcases List.mem_append.mp hx with hx | hx
          · exact (mem_of_mem_rest hx).2
          · rw [List.mem_singleton.mp hx]
            exact beq_false_of_ne hc
        rw [completeLines_append, completeLines_of_none hopen]
        exact List.append_ne_nil_of_right_ne_nil _ (List.cons_ne_nil c [])

/-- **Adding to a closed text** adds lines and changes none. -/
theorem Closed.linesOf_append {cs : List Char} (h : Closed cs) (more : List Char) :
    linesOf (cs ++ more) = linesOf cs ++ linesOf more := by
  rw [linesOf_eq, linesOf_eq cs, linesOf_eq more, completeLines_append, closed_iff.mp h]
  simp

/-- A line end that is put behind an open line makes no line. -/
theorem linesOf_concat {cs : List Char} (hopen : ¬ Closed cs) (h : '\r' ∉ cs) :
    linesOf (cs ++ ['\n']) = linesOf cs := by
  have hrest : (completeLines (· == '\n') cs).2 ≠ [] := fun hempty => hopen (closed_iff.mpr hempty)
  have hreturn : dropReturn (completeLines (· == '\n') cs).2 = (completeLines (· == '\n') cs).2 :=
    dropReturn_of_notMem fun hmem => h (mem_of_mem_rest hmem).1
  rw [linesOf_eq, linesOf_eq cs, completeLines_concat, if_neg hrest, if_pos rfl, List.append_nil,
    List.map_append, List.map_singleton, hreturn]

end ToolAgent.Text
