import Mathlib.Data.List.Infix
import ToolAgent.Text.Basic

/-!
# Cutting a text

`cut?` cuts a text at the first place where a pattern stands. So what was put before the pattern
comes back only if the pattern does not stand earlier: for a run of one character, if what stands
before neither holds the run nor ends with its character (`cut?_run`).
-/

namespace ToolAgent.Text

variable {pat cs before rest : List Char}

theorem after?_eq_some_iff : after? pat cs = some rest ↔ cs = pat ++ rest := by
  induction pat generalizing cs with
  | nil => rw [after?, Option.some.injEq, List.nil_append]
  | cons p pat ih =>
      cases cs with
      | nil => simp [after?]
      | cons c cs =>
          rw [after?, List.cons_append, List.cons.injEq]
          split
          · next hpc => rw [ih, and_iff_right hpc.symm]
          · next hpc => simp [Ne.symm hpc]

theorem after?_eq_none_iff : after? pat cs = none ↔ ¬ pat <+: cs := by
  rw [Option.eq_none_iff_forall_ne_some]
  refine ⟨fun h ⟨rest, hrest⟩ => h rest (after?_eq_some_iff.mpr hrest.symm), ?_⟩
  intro h rest hrest
  exact h ⟨rest, (after?_eq_some_iff.mp hrest).symm⟩

theorem cut?_append_self (pat rest : List Char) : cut? pat (pat ++ rest) = some ([], rest) := by
  cases happ : pat ++ rest with
  | nil =>
      obtain ⟨rfl, rfl⟩ := List.append_eq_nil_iff.mp happ
      rfl
  | cons c cs => rw [cut?, after?_eq_some_iff.mpr happ.symm]

theorem cut?_cons {c : Char} (h : ¬ pat <+: c :: cs) :
    cut? pat (c :: cs) = (cut? pat cs).map fun (before, rest) => (c :: before, rest) := by
  rw [cut?, after?_eq_none_iff.mpr h]

/-- What stands before the pattern and after it comes back if the pattern does not stand earlier. -/
theorem cut?_append (h : ∀ part, part ≠ [] → part <:+ before → ¬ pat <+: part ++ (pat ++ rest)) :
    cut? pat (before ++ (pat ++ rest)) = some (before, rest) := by
  induction before with
  | nil => exact cut?_append_self pat rest
  | cons c before ih =>
      have hhere : ¬ pat <+: c :: (before ++ (pat ++ rest)) :=
        h (c :: before) (List.cons_ne_nil _ _) (List.suffix_refl _)
      have hlater := ih fun part hne hpart => h part hne (hpart.trans (List.suffix_cons _ _))
      rw [List.cons_append, cut?_cons hhere, hlater]
      rfl

theorem cut?_eq_none_iff (hpat : pat ≠ []) : cut? pat cs = none ↔ ¬ pat <:+: cs := by
  induction cs with
  | nil => simp [cut?, hpat]
  | cons c cs ih =>
      rw [List.infix_cons_iff, not_or]
      by_cases hhere : pat <+: c :: cs
      · obtain ⟨rest, hrest⟩ := hhere
        rw [← hrest, cut?_append_self]
        simp
      · rw [cut?_cons hhere, Option.map_eq_none_iff, ih]
        simp [hhere]

/-! ## Runs -/

/-- Every text ends with some number of one character. -/
theorem exists_eq_append_replicate (a : Char) (cs : List Char) :
    ∃ front n, cs = front ++ List.replicate n a ∧ front.getLast? ≠ some a := by
  induction cs using List.reverseRecOn with
  | nil => exact ⟨[], 0, rfl, by simp⟩
  | append_singleton cs c ih =>
      by_cases hc : c = a
      · obtain ⟨front, n, rfl, hfront⟩ := ih
        refine ⟨front, n + 1, ?_, hfront⟩
        rw [hc, List.replicate_succ', List.append_assoc]
      · exact ⟨cs ++ [c], 0, (List.append_nil _).symm, by simpa using hc⟩

/-- A text is cut at a run if what stands before neither holds the run nor ends with its
character. -/
theorem cut?_run {n : Nat} {a : Char} (hpart : ¬ List.replicate n a <:+: before)
    (hlast : before.getLast? ≠ some a) :
    cut? (List.replicate n a) (before ++ (List.replicate n a ++ rest)) = some (before, rest) := by
  refine cut?_append fun part hne hsuffix hprefix => ?_
  rcases Nat.le_total n part.length with hle | hle
  · have hhere : List.replicate n a <+: part :=
      List.prefix_of_prefix_length_le hprefix (List.prefix_append _ _) (by simpa using hle)
    exact hpart (hhere.isInfix.trans hsuffix.isInfix)
  · -- A part shorter than the run would consist of its character.
    have hrun : part <+: List.replicate n a :=
      List.prefix_of_prefix_length_le (List.prefix_append _ _) hprefix (by simpa using hle)
    obtain ⟨front, rfl⟩ := hsuffix
    refine hlast ?_
    rw [List.getLast?_append_of_ne_nil _ hne, List.getLast?_eq_getLast_of_ne_nil hne]
    exact congrArg some (List.eq_of_mem_replicate (hrun.subset (List.getLast_mem hne)))

/-! ## Characters -/

/-- A text is cut at the first place of a character. -/
theorem cut?_singleton_iff {a : Char} :
    cut? [a] cs = some (before, rest) ↔ cs = before ++ a :: rest ∧ a ∉ before := by
  induction cs generalizing before with
  | nil => simp [cut?]
  | cons c cs ih =>
      by_cases hc : c = a
      · have hcut : cut? [a] (c :: cs) = some ([], cs) := by
          rw [hc]
          exact cut?_append_self [a] cs
        rw [hcut]
        cases before with
        | nil => simp [hc]
        | cons b before =>
            refine iff_of_false (by simp) ?_
            rintro ⟨hsplit, hnot⟩
            obtain ⟨rfl, -⟩ := List.cons.inj hsplit
            exact hnot (hc ▸ List.mem_cons_self)
      · have hhere : ¬ [a] <+: c :: cs := by simp [Ne.symm hc]
        rw [cut?_cons hhere, Option.map_eq_some_iff]
        cases before with
        | nil => simp [hc]
        | cons b before =>
            simp only [Prod.exists, Prod.mk.injEq, List.cons.injEq, List.cons_append,
              List.mem_cons, not_or]
            constructor
            · rintro ⟨front, back, hcut, ⟨rfl, rfl⟩, rfl⟩
              obtain ⟨hsplit, hnot⟩ := ih.mp hcut
              exact ⟨⟨rfl, hsplit⟩, Ne.symm hc, hnot⟩
            · rintro ⟨⟨rfl, hsplit⟩, -, hnot⟩
              exact ⟨before, rest, ih.mpr ⟨hsplit, hnot⟩, ⟨rfl, rfl⟩, rfl⟩

theorem cut?_singleton_eq_none_iff {a : Char} : cut? [a] cs = none ↔ a ∉ cs := by
  rw [cut?_eq_none_iff (List.cons_ne_nil _ _), List.singleton_infix_iff]

/-! ## On strings -/

theorem dropStart?_eq_some_iff {s pat rest : String} :
    dropStart? s pat = some rest ↔ s = pat ++ rest := by
  rw [dropStart?, Option.map_eq_some_iff]
  constructor
  · rintro ⟨cs, hafter, rfl⟩
    rw [← String.toList_inj, String.toList_append, String.toList_ofList]
    exact after?_eq_some_iff.mp hafter
  · rintro rfl
    exact ⟨rest.toList, after?_eq_some_iff.mpr String.toList_append, String.ofList_toList⟩

end ToolAgent.Text
