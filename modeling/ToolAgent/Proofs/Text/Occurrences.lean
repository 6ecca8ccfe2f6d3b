import ToolAgent.Proofs.Text.Cut
import ToolAgent.Tool.FileWrite

/-!
# Where a text occurs in another one

A pattern may occur at places that overlap. Counting from the left skips what overlaps the
occurrence before, so a count of one means less than a single place: it means that the pattern
occurs somewhere and that it occurs elsewhere only within that first occurrence
(`occurrences_eq_one_iff`).
-/

namespace ToolAgent.Text

variable {pat text rest : List Char} {place : Nat}

/-- The pattern occurs behind so many characters of the text. -/
def OccursAt (pat text : List Char) (place : Nat) : Prop :=
  ∃ before rest, text = before ++ (pat ++ rest) ∧ before.length = place

/-- The pattern occurs at this place, and wherever else it occurs it begins within that
occurrence. -/
structure Foremost (pat text : List Char) (place : Nat) : Prop where
  occurs : OccursAt pat text place
  within : ∀ other, OccursAt pat text other → other ≠ place →
    place < other ∧ other < place + pat.length

/-! ## Places -/

theorem occursAt_length (pat before rest : List Char) :
    OccursAt pat (before ++ (pat ++ rest)) before.length := ⟨before, rest, rfl, rfl⟩

theorem occursAt_append (front : List Char) :
    OccursAt pat (front ++ text) (front.length + place) ↔ OccursAt pat text place := by
  constructor
  · rintro ⟨before, rest, hsplit, hlength⟩
    have hbefore : before.take front.length = front := by
      have htake := congrArg (List.take front.length) hsplit
      rw [List.take_left, List.take_append_of_le_length (by omega)] at htake
      exact htake.symm
    rw [← List.take_append_drop front.length before, hbefore, List.append_assoc] at hsplit
    exact ⟨_, rest, List.append_cancel_left hsplit, by rw [List.length_drop]; omega⟩
  · rintro ⟨before, rest, rfl, rfl⟩
    exact ⟨front ++ before, rest, by rw [List.append_assoc], List.length_append⟩

theorem occursAt_cons_iff {c : Char} : OccursAt pat (c :: text) (place + 1) ↔
    OccursAt pat text place := by
  rw [Nat.add_comm]
  exact occursAt_append [c]

theorem infix_iff_occursAt : pat <:+: text ↔ ∃ place, OccursAt pat text place := by
  constructor
  · rintro ⟨before, rest, rfl⟩
    exact ⟨_, before, rest, List.append_assoc _ _ _, rfl⟩
  · rintro ⟨_, before, rest, rfl, -⟩
    exact ⟨before, rest, List.append_assoc _ _ _⟩

theorem occursAt_nil : OccursAt [] text place ↔ place ≤ text.length := by
  constructor
  · rintro ⟨before, rest, rfl, rfl⟩
    simp
  · intro hplace
    exact ⟨text.take place, text.drop place, by simp, List.length_take_of_le hplace⟩

/-- A text is cut at the first place where the pattern occurs. -/
theorem cut?_eq_some {before : List Char} (h : cut? pat text = some (before, rest)) :
    text = before ++ (pat ++ rest) ∧
      ∀ place, OccursAt pat text place → before.length ≤ place := by
  induction text generalizing before with
  | nil =>
      rw [cut?] at h
      split at h
      · next hpat =>
          cases h
          exact ⟨by rw [hpat]; rfl, fun _ _ => Nat.zero_le _⟩
      · cases h
  | cons c text ih =>
      rw [cut?] at h
      cases hafter : after? pat (c :: text) with
      | some after =>
          rw [hafter] at h
          have hsplit := after?_eq_some_iff.mp hafter
          cases h
          exact ⟨hsplit, fun _ _ => Nat.zero_le _⟩
      | none =>
          -- Not here: the cut is that of the rest of the text, one place further on.
          rw [hafter] at h
          obtain ⟨⟨before', rest'⟩, hcut, hpair⟩ := Option.map_eq_some_iff.mp h
          cases hpair
          obtain ⟨hsplit, hfirst⟩ := ih hcut
          refine ⟨congrArg (c :: ·) hsplit, fun place hplace => ?_⟩
          cases place with
          | zero =>
              obtain ⟨before, rest, hsplit, hlength⟩ := hplace
              obtain rfl := List.length_eq_zero_iff.mp hlength
              exact absurd ⟨rest, hsplit.symm⟩ (after?_eq_none_iff.mp hafter)
          | succ place => exact Nat.succ_le_succ (hfirst place (occursAt_cons_iff.mp hplace))

/-- Where a text is cut, exactly. -/
theorem cut?_eq_some_iff {before : List Char} : cut? pat text = some (before, rest) ↔
    text = before ++ (pat ++ rest) ∧ ∀ place, OccursAt pat text place → before.length ≤ place := by
  refine ⟨cut?_eq_some, ?_⟩
  rintro ⟨rfl, hfirst⟩
  refine cut?_append fun part hne hsuffix hprefix => ?_
  -- Otherwise the pattern would occur earlier.
  obtain ⟨front, rfl⟩ := hsuffix
  obtain ⟨tail, htail⟩ := hprefix
  have hle := hfirst front.length ⟨front, tail, by rw [htail, List.append_assoc], rfl⟩
  have hpos := List.length_pos_iff.mpr hne
  rw [List.length_append] at hle
  omega

/-! ## Foremost occurrences -/

/-- The only occurrence is the foremost one. -/
theorem Foremost.of_unique (h : OccursAt pat text place)
    (hunique : ∀ other, OccursAt pat text other → other = place) : Foremost pat text place where
  occurs := h
  within other hother hne := absurd (hunique other hother) hne

/-- An occurrence that no other one overlaps is foremost only if it is the only one. -/
theorem Foremost.unique (h : Foremost pat text place)
    (hapart : ∀ other, OccursAt pat text other → place < other → place + pat.length ≤ other)
    {other : Nat} (hother : OccursAt pat text other) : other = place := by
  by_contra hne
  obtain ⟨hlt, hin⟩ := h.within other hother hne
  exact Nat.lt_irrefl _ (Nat.lt_of_lt_of_le hin (hapart other hother hlt))

theorem foremost_nil_iff : (∃ place, Foremost [] text place) ↔ text = [] := by
  constructor
  · rintro ⟨place, hplace⟩
    -- The empty pattern occurs at the start and at the end, and nothing begins within it.
    have hstart : 0 = place := hplace.unique (by simp; omega) (occursAt_nil.mpr (Nat.zero_le _))
    have hend : text.length = place := hplace.unique (by simp; omega) (occursAt_nil.mpr le_rfl)
    exact List.length_eq_zero_iff.mp (hend.trans hstart.symm)
  · rintro rfl
    refine ⟨0, .of_unique (occursAt_nil.mpr le_rfl) fun other hother => ?_⟩
    exact Nat.le_zero.mp (occursAt_nil.mp hother)

/-- **Where the foremost occurrence is**: where the text is cut, if the pattern does not occur
behind it any more. -/
theorem foremost_iff (hpat : pat ≠ []) : Foremost pat text place ↔ ∃ before rest,
    cut? pat text = some (before, rest) ∧ before.length = place ∧ ¬ pat <:+: rest := by
  constructor
  · intro h
    cases hcut : cut? pat text with
    | none =>
        have hnone := (cut?_eq_none_iff hpat).mp hcut
        exact absurd (infix_iff_occursAt.mpr ⟨place, h.occurs⟩) hnone
    | some parts =>
        obtain ⟨before, rest⟩ := parts
        obtain ⟨rfl, hfirst⟩ := cut?_eq_some hcut
        have hplace : before.length = place := by
          by_contra hne
          have hlt := (h.within _ (occursAt_length pat before rest) hne).1
          exact Nat.lt_irrefl _ (Nat.lt_of_lt_of_le hlt (hfirst place h.occurs))
        refine ⟨before, rest, rfl, hplace, fun hlater => ?_⟩
        -- An occurrence behind the cut would begin within the one at the cut.
        obtain ⟨later, hlater⟩ := infix_iff_occursAt.mp hlater
        have hpos : 0 < pat.length := List.length_pos_iff.mpr hpat
        rw [← occursAt_append (before ++ pat), List.append_assoc, List.length_append]
          at hlater
        have hin := (h.within _ hlater (by omega)).2
        omega
  · rintro ⟨before, rest, hcut, rfl, hlater⟩
    obtain ⟨rfl, hfirst⟩ := cut?_eq_some hcut
    refine ⟨occursAt_length pat before rest, fun other hother hne => ?_⟩
    refine ⟨Nat.lt_of_le_of_ne (hfirst other hother) hne.symm, ?_⟩
    by_contra hle
    obtain ⟨place, rfl⟩ := Nat.exists_eq_add_of_le (Nat.le_of_not_lt hle)
    rw [← List.append_assoc, ← List.length_append, occursAt_append] at hother
    exact hlater (infix_iff_occursAt.mpr ⟨place, hother⟩)

/-- A text is cut at the foremost occurrence. -/
theorem Foremost.cut?_eq {before : List Char}
    (h : Foremost pat (before ++ (pat ++ rest)) before.length) :
    cut? pat (before ++ (pat ++ rest)) = some (before, rest) := by
  by_cases hpat : pat = []
  · subst hpat
    have htext := foremost_nil_iff.mp ⟨_, h⟩
    obtain ⟨rfl, hrest⟩ := List.append_eq_nil_iff.mp htext
    exact cut?_append_self _ _
  · obtain ⟨before', rest', hcut, hlength, -⟩ := (foremost_iff hpat).mp h
    have hsplit := (cut?_eq_some hcut).1
    obtain ⟨rfl, htail⟩ := List.append_inj hsplit hlength.symm
    rw [hcut, List.append_cancel_left htail]

end ToolAgent.Text

namespace ToolAgent.FileWrite

open Text (cut? splitOnText OccursAt Foremost)

variable {pat text rest before : List Char}

/-! ## Counting -/

theorem occurrences_of_cut?_none (hpat : pat ≠ []) (h : cut? pat text = none) :
    occurrences pat text = 0 := by
  rw [occurrences, if_neg hpat, splitOnText, dif_neg hpat]
  split <;> simp_all

theorem occurrences_of_cut?_some (hpat : pat ≠ []) (h : cut? pat text = some (before, rest)) :
    occurrences pat text = occurrences pat rest + 1 := by
  have hpieces : (splitOnText pat rest).length ≠ 0 := by
    rw [splitOnText, dif_neg hpat]
    split <;> simp
  have hsplit : splitOnText pat text = before :: splitOnText pat rest := by
    rw [splitOnText, dif_neg hpat]
    split <;> simp_all
  rw [occurrences, if_neg hpat, occurrences, if_neg hpat, hsplit, List.length_cons]
  omega

/-- Nothing is counted if the pattern does not occur. -/
theorem occurrences_eq_zero_iff :
    occurrences pat text = 0 ↔ ¬ ∃ place, OccursAt pat text place := by
  rw [← Text.infix_iff_occursAt]
  by_cases hpat : pat = []
  · subst hpat
    simp [occurrences]
  · rw [← Text.cut?_eq_none_iff hpat]
    cases hcut : cut? pat text with
    | none => simp [occurrences_of_cut?_none hpat hcut]
    | some parts => simp [occurrences_of_cut?_some hpat hcut]

/-- **One occurrence is counted** if the pattern occurs elsewhere only within the first one. -/
theorem occurrences_eq_one_iff : occurrences pat text = 1 ↔ ∃ place, Foremost pat text place := by
  by_cases hpat : pat = []
  · subst hpat
    rw [Text.foremost_nil_iff, occurrences, if_pos rfl, Nat.add_eq_right, List.length_eq_zero_iff]
  · cases hcut : cut? pat text with
    | none =>
        rw [occurrences_of_cut?_none hpat hcut]
        simp [Text.foremost_iff hpat, hcut]
    | some parts =>
        obtain ⟨before, rest⟩ := parts
        rw [occurrences_of_cut?_some hpat hcut, Nat.add_eq_right, occurrences_eq_zero_iff,
          ← Text.infix_iff_occursAt]
        simp [Text.foremost_iff hpat, hcut]

end ToolAgent.FileWrite
