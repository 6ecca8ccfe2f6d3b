import Mathlib.Data.List.Basic
import ToolAgent.Text.Basic

/-!
# Joined texts

What joining gives when a text comes last: the others joined, the separator and the text
(`intercalate_concat`). So a joined text ends as the last of its texts does
(`getLast?_intercalate`).
-/

namespace ToolAgent.Text

theorem intercalate_concat (sep text : String) {texts : List String} (h : texts ≠ []) :
    sep.intercalate (texts ++ [text]) = sep.intercalate texts ++ sep ++ text := by
  rw [String.intercalate_append_of_ne_nil h (List.cons_ne_nil text []),
    String.intercalate_singleton]

/-- Joined texts are not empty if no text is. -/
theorem intercalate_ne_empty (sep : String) {texts : List String} (h : texts ≠ [])
    (htexts : ∀ text ∈ texts, text ≠ "") : sep.intercalate texts ≠ "" := by
  obtain ⟨front, last, rfl⟩ := (List.eq_nil_or_concat' texts).resolve_left h
  have hlast : last ≠ "" := htexts last (by simp)
  by_cases hfront : front = []
  · subst hfront
    rwa [List.nil_append, String.intercalate_singleton]
  · rw [intercalate_concat sep last hfront]
    intro hempty
    exact hlast (String.append_eq_empty_iff.mp hempty).2

/-- A joined text ends as the last text does. -/
theorem getLast?_intercalate (sep : String) (texts : List String) {last : String}
    (h : last ≠ "") :
    (sep.intercalate (texts ++ [last])).toList.getLast? = last.toList.getLast? := by
  have hlast : last.toList ≠ [] := mt String.toList_eq_nil_iff.mp h
  by_cases htexts : texts = []
  · rw [htexts, List.nil_append, String.intercalate_singleton]
  · rw [intercalate_concat sep last htexts, String.toList_append,
      List.getLast?_append_of_ne_nil _ hlast]

end ToolAgent.Text
