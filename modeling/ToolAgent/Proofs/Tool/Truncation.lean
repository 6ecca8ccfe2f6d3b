import ToolAgent.Proofs.Text.Boundary
import ToolAgent.Tool.Output

/-!
# Cutting what is put out

Output above the limit is cut at the first boundary that is met on the way back from the limit. What
is kept is the longest start of the output that fits (`truncate_longest`).
-/

namespace ToolAgent

open Utf8 (LongestStart)

/-- A text above the limit has a longest start that fits, and this is kept. -/
theorem startWithin?_eq_some {limit : Nat} {s : String} {kept : List Char}
    (h : LongestStart limit s.toList kept) :
    startWithin? limit s = some (String.ofList kept) := by
  rw [startWithin?, Utf8.ofString, Utf8.boundaryUpTo?_of_longestStart h, Option.bind_some,
    Utf8.before?_encode h.starts]

theorem truncate_of_longestStart {limit : Nat} {s : String} {kept : List Char}
    (hlong : limit < Utf8.sizeOf s) (h : LongestStart limit s.toList kept) :
    truncate limit s = String.ofList kept ++ cutMark := by
  rw [truncate, if_neg (Nat.not_le.mpr hlong)]
  simp only [startWithin?_eq_some h, Option.get_some]

/-- **Output is kept whole, or as its longest start within the limit and marked.** Going back from
the limit ends at a boundary above zero or at zero, at most three bytes before the limit, and what
stands before that boundary is a text. -/
theorem truncate_longest (limit : Nat) (s : String) :
    Utf8.sizeOf s ≤ limit ∧ truncate limit s = s ∨
      limit < Utf8.sizeOf s ∧ ∃ kept,
        LongestStart limit s.toList kept ∧
        truncate limit s = String.ofList kept ++ "\n... (output truncated)" ∧
        Utf8.boundaryUpTo? (Utf8.ofString s) limit = some (Utf8.size kept) ∧
        limit ≤ Utf8.size kept + 3 ∧
        Utf8.before? (Utf8.ofString s) (Utf8.size kept) = some (String.ofList kept) := by
  rcases Nat.lt_or_ge limit (Utf8.sizeOf s) with hlong | hshort
  · obtain ⟨kept, hkept, hnear⟩ := Utf8.exists_longestStart hlong
    exact .inr ⟨hlong, kept, hkept, truncate_of_longestStart hlong hkept,
      Utf8.boundaryUpTo?_of_longestStart hkept, hnear, Utf8.before?_encode hkept.starts⟩
  · exact .inl ⟨hshort, if_pos hshort⟩

/-- The limit lies inside the second character. -/
example : truncate 2 "héllo" = "h\n... (output truncated)" := by decide +kernel

end ToolAgent
