import ToolAgent.Text.Basic

/-!
# Words between blanks

`wordsOf` finds its words by skipping and taking runs of characters. They are the non-empty pieces
between blanks (`wordsOf_eq`), so a text may be cut at any blank (`wordsOf_append_blank`).
-/

namespace ToolAgent.Text

/-! ## Pieces -/

theorem splitOnP_cons_of_pos {p : Char → Bool} {c : Char} (hc : p c = true) (cs : List Char) :
    (c :: cs).splitOnP p = [] :: cs.splitOnP p := by
  rw [List.splitOnP_cons_eq_if_modifyHead, if_pos hc]

theorem splitOnP_cons_of_neg {p : Char → Bool} {c : Char} (hc : p c = false)
    {cs piece : List Char} {rest : List (List Char)} (h : cs.splitOnP p = piece :: rest) :
    (c :: cs).splitOnP p = (c :: piece) :: rest := by
  rw [List.splitOnP_cons_eq_if_modifyHead, if_neg (by simp [hc]), h]
  rfl

/-- No separator is in a piece. -/
theorem notMem_of_mem_splitOnP {p : Char → Bool} {cs piece : List Char}
    (h : piece ∈ cs.splitOnP p) : ∀ c ∈ piece, p c = false := by
  induction cs generalizing piece with
  | nil => simp_all
  | cons c cs ih =>
      cases hc : p c with
      | true =>
          rw [splitOnP_cons_of_pos hc] at h
          rcases List.mem_cons.mp h with rfl | h
          · simp
          · exact ih h
      | false =>
          obtain ⟨first, rest, hpieces⟩ := List.exists_cons_of_ne_nil (List.splitOnP_ne_nil p cs)
          rw [splitOnP_cons_of_neg hc hpieces] at h
          rw [hpieces] at ih
          rcases List.mem_cons.mp h with rfl | h
          · exact List.forall_mem_cons.mpr ⟨hc, ih List.mem_cons_self⟩
          · exact ih (List.mem_cons_of_mem _ h)

/-! ## Words -/

/-- The pieces of a text that are not empty. -/
def wordsBy (p : Char → Bool) (cs : List Char) : List (List Char) :=
  (cs.splitOnP p).filter (· ≠ [])

theorem wordsBy_append {p : Char → Bool} (xs ys : List Char) {b : Char} (hb : p b = true) :
    wordsBy p (xs ++ b :: ys) = wordsBy p xs ++ wordsBy p ys := by
  rw [wordsBy, List.splitOnP_append_cons xs ys hb, List.filter_append]
  rfl

theorem wordsBy_cons {p : Char → Bool} {b : Char} (hb : p b = true) (cs : List Char) :
    wordsBy p (b :: cs) = wordsBy p cs := wordsBy_append [] cs hb

theorem wordsBy_of_none {p : Char → Bool} {w : List Char} (hw : w ≠ [])
    (h : ∀ c ∈ w, p c = false) : wordsBy p w = [w] := by
  rw [wordsBy, List.splitOnP_eq_singleton h]
  simp [hw]

/-- Separators in front make no difference. -/
theorem wordsBy_dropWhile (p : Char → Bool) (cs : List Char) :
    wordsBy p (cs.dropWhile p) = wordsBy p cs := by
  induction cs with
  | nil => rfl
  | cons c cs ih =>
      cases hc : p c with
      | true => rw [List.dropWhile_cons_of_pos hc, ih, wordsBy_cons hc]
      | false => rw [List.dropWhile_cons_of_neg (by simp [hc])]

/-- What separators do not follow ends where the text ends or a separator stands. -/
theorem eq_nil_or_cons_of_dropWhile {p : Char → Bool} (cs : List Char) :
    cs.dropWhile (!p ·) = [] ∨ ∃ b rest, p b = true ∧ cs.dropWhile (!p ·) = b :: rest := by
  have hhead := List.head?_dropWhile_not (!p ·) cs
  cases hrest : cs.dropWhile (!p ·) with
  | nil => exact .inl rfl
  | cons b rest =>
      rw [hrest] at hhead
      exact .inr ⟨b, rest, by simpa using hhead, rfl⟩

/-- **The words of a text are its non-empty pieces between blanks.** -/
theorem wordsOf_eq (cs : List Char) : wordsOf cs = wordsBy isBlank cs := by
  fun_induction wordsOf cs with
  | case1 cs c r hstart ih =>
      have hdrop : wordsBy isBlank cs = wordsBy isBlank (c :: r) := by
        rw [← hstart]
        exact (wordsBy_dropWhile isBlank cs).symm
      have hc : isBlank c = false := by
        have hhead := List.head?_dropWhile_not isBlank cs
        rw [show cs.dropWhile isBlank = c :: r from hstart] at hhead
        exact hhead
      have hword : ∀ x ∈ c :: r.takeWhile (!isBlank ·), isBlank x = false := by
        refine List.forall_mem_cons.mpr ⟨hc, fun x hx => ?_⟩
        simpa using List.all_eq_true.mp List.all_takeWhile x hx
      have hone := wordsBy_of_none (p := isBlank) (List.cons_ne_nil c _) hword
      have hsplit : c :: r = (c :: r.takeWhile (!isBlank ·)) ++ r.dropWhile (!isBlank ·) := by
        rw [List.cons_append, List.takeWhile_append_dropWhile]
      rw [hdrop, ih]
      rcases eq_nil_or_cons_of_dropWhile (p := isBlank) r with hnone | ⟨b, rest, hb, hrest⟩
      · rw [hnone, List.append_nil] at hsplit
        rw [hnone, hsplit, hone]
        rfl
      · rw [hrest] at hsplit
        rw [hrest, hsplit, wordsBy_append _ _ hb, hone, wordsBy_cons hb]
        rfl
  | case2 cs hnone =>
      rw [← wordsBy_dropWhile, show cs.dropWhile isBlank = [] from hnone]
      rfl

theorem wordsOf_append_blank (xs ys : List Char) {b : Char} (hb : isBlank b = true) :
    wordsOf (xs ++ b :: ys) = wordsOf xs ++ wordsOf ys := by
  rw [wordsOf_eq, wordsOf_eq, wordsOf_eq, wordsBy_append xs ys hb]

theorem wordsOf_of_none {w : List Char} (hw : w ≠ []) (h : ∀ c ∈ w, isBlank c = false) :
    wordsOf w = [w] := by
  rw [wordsOf_eq, wordsBy_of_none hw h]

/-- The first word of a text stands behind blanks, and ends at a blank or with the text. -/
theorem eq_append_of_wordsOf {cs w : List Char} {ws : List (List Char)} (h : wordsOf cs = w :: ws) :
    ∃ lead rest, cs = lead ++ (w ++ rest) ∧ (∀ c ∈ lead, isBlank c = true) ∧
      ∀ c ∈ rest.head?, isBlank c = true := by
  rw [wordsOf] at h
  split at h
  · next c r hstart =>
      obtain ⟨rfl, -⟩ := List.cons.inj h
      refine ⟨cs.takeWhile isBlank, r.dropWhile (!isBlank ·), ?_, ?_, ?_⟩
      · rw [List.cons_append, List.takeWhile_append_dropWhile, ← hstart]
        exact List.takeWhile_append_dropWhile.symm
      · exact fun c hc => List.all_eq_true.mp List.all_takeWhile c hc
      · intro c hc
        have hhead := List.head?_dropWhile_not (!isBlank ·) r
        rw [Option.mem_def.mp hc] at hhead
        simpa using hhead
  · cases h

/-- A run without blanks is the first word of a text that it begins, if a blank follows. -/
theorem exists_wordsOf_append {w : List Char} (hw : w ≠ []) (h : ∀ c ∈ w, isBlank c = false)
    {after : List Char} (hafter : ∀ c ∈ after.head?, isBlank c = true) :
    ∃ ws, wordsOf (w ++ after) = w :: ws := by
  cases after with
  | nil => exact ⟨[], by rw [List.append_nil, wordsOf_of_none hw h]⟩
  | cons b rest =>
      refine ⟨wordsOf rest, ?_⟩
      rw [wordsOf_append_blank w rest (hafter b rfl), wordsOf_of_none hw h]
      rfl

theorem wordsOf_of_blanks {lead : List Char} (h : ∀ c ∈ lead, isBlank c = true) (cs : List Char) :
    wordsOf (lead ++ cs) = wordsOf cs := by
  induction lead with
  | nil => rfl
  | cons b lead ih =>
      obtain ⟨hb, hlead⟩ := List.forall_mem_cons.mp h
      rw [List.cons_append, wordsOf_eq, wordsBy_cons hb, ← wordsOf_eq, ih hlead]

/-- What stands between blanks, or at an end of the text, is a word. -/
theorem mem_wordsOf {before w after : List Char} (hw : w ≠ []) (h : ∀ c ∈ w, isBlank c = false)
    (hbefore : ∀ c ∈ before.getLast?, isBlank c = true)
    (hafter : ∀ c ∈ after.head?, isBlank c = true) : w ∈ wordsOf (before ++ (w ++ after)) := by
  obtain ⟨ws, hws⟩ := exists_wordsOf_append hw h hafter
  have hmem : w ∈ wordsOf (w ++ after) := by
    rw [hws]
    exact List.mem_cons_self
  rcases List.eq_nil_or_concat before with rfl | ⟨front, b, rfl⟩
  · exact hmem
  · rw [List.concat_eq_append] at hbefore ⊢
    have hb : isBlank b = true := hbefore b (by simp)
    rw [List.append_assoc, List.singleton_append, wordsOf_append_blank front _ hb]
    exact List.mem_append_right _ hmem

end ToolAgent.Text
