import Mathlib.Data.List.Infix
import Mathlib.Data.List.Nodup
import ToolAgent.Proofs.Text.Cut
import ToolAgent.Server.Name

/-!
# The names that servers are given

Whatever a server is called, the name that it is given starts with a letter, goes on with letters,
digits and underscores, and does not hold the delimiter (`isValid_ofSnake`, for any way of putting a
name in snake case); and several servers get names that differ (`nodup_assignBy`).

Squeezing and collapsing only take underscores away, and ones at the end of a name change nothing
about its validity, so both are a matter of what stands in a name and of its first character.
-/

namespace ToolAgent.ServerName

/-! ## Collapsing -/

theorem squeeze_eq_self_iff (cs : List Char) : squeeze cs = cs ↔ ¬ delimiter.toList <:+: cs := by
  fun_induction squeeze cs with
  | case1 rest ih =>
      -- A text that begins with the delimiter gets shorter.
      have hshort := squeeze_eq_or_shorter rest
      have hne : '_' :: squeeze rest ≠ '_' :: '_' :: '_' :: rest := fun h => by
        have hlength := congrArg List.length h
        simp only [List.length_cons] at hlength
        rcases hshort with hsame | hlt
        · rw [hsame] at hlength
          omega
        · omega
      exact iff_of_false hne (not_not_intro (List.prefix_append _ rest).isInfix)
  | case2 c rest hnot ih =>
      have hhere : ¬ delimiter.toList <+: c :: rest := by
        rintro ⟨after, hafter⟩
        obtain ⟨rfl, hrest⟩ := List.cons.inj hafter
        exact hnot after rfl hrest.symm
      rw [List.cons.injEq, and_iff_right rfl, ih, List.infix_cons_iff, not_or,
        and_iff_right hhere]
  | case3 => exact iff_of_true rfl (by decide)

theorem mem_of_mem_squeeze {c : Char} {cs : List Char} (h : c ∈ squeeze cs) : c ∈ cs := by
  fun_induction squeeze cs with
  | case1 rest ih =>
      rcases List.mem_cons.mp h with rfl | h
      · exact List.mem_cons_self
      · exact List.mem_append_right ['_', '_', '_'] (ih h)
  | case2 c rest _ ih =>
      rcases List.mem_cons.mp h with rfl | h
      · exact List.mem_cons_self
      · exact List.mem_cons_of_mem _ (ih h)
  | case3 => exact h

theorem head?_squeeze (cs : List Char) : (squeeze cs).head? = cs.head? := by
  fun_induction squeeze cs <;> rfl

theorem not_infix_collapse (cs : List Char) : ¬ delimiter.toList <:+: collapse cs := by
  fun_induction collapse cs with
  | case1 cs h => exact (squeeze_eq_self_iff cs).mp h
  | case2 cs _ ih => exact ih

theorem mem_of_mem_collapse {c : Char} {cs : List Char} (h : c ∈ collapse cs) : c ∈ cs := by
  fun_induction collapse cs with
  | case1 => exact h
  | case2 cs _ ih => exact mem_of_mem_squeeze (ih h)

theorem head?_collapse (cs : List Char) : (collapse cs).head? = cs.head? := by
  fun_induction collapse cs with
  | case1 => rfl
  | case2 cs _ ih => rw [ih, head?_squeeze]

/-! ## Valid names -/

theorem isNameChar_of_isLetter {c : Char} (h : isLetter c = true) : isNameChar c = true := by
  simp only [isLetter] at h
  simp [isNameChar, Char.isAlphanum, h]

theorem isValid_iff {cs : List Char} : isValid cs = true ↔
    (∃ c ∈ cs.head?, isLetter c = true) ∧ (∀ c ∈ cs, isNameChar c = true) ∧
      ¬ delimiter.toList <:+: cs := by
  cases cs with
  | nil => simp [isValid]
  | cons c rest =>
      have hcut : (Text.cut? delimiter.toList (c :: rest)).isNone = true ↔
          ¬ delimiter.toList <:+: c :: rest :=
        Option.isNone_iff_eq_none.trans (Text.cut?_eq_none_iff (by decide))
      rw [isValid, Bool.and_eq_true, Bool.and_eq_true, hcut, List.all_eq_true]
      constructor
      · rintro ⟨⟨hc, hrest⟩, hpart⟩
        exact ⟨⟨c, rfl, hc⟩, List.forall_mem_cons.mpr ⟨isNameChar_of_isLetter hc, hrest⟩, hpart⟩
      · rintro ⟨⟨d, hd, hc⟩, hall, hpart⟩
        obtain rfl := Option.some.inj hd
        exact ⟨⟨hc, (List.forall_mem_cons.mp hall).2⟩, hpart⟩

/-- Digits in base sixteen are letters and digits. -/
theorem isAlphanum_of_mem_toDigits (n : Nat) {c : Char} (h : c ∈ Nat.toDigits 16 n) :
    c.isAlphanum = true := by
  have hdigit : ∀ d < 16, (Nat.digitChar d).isAlphanum = true := by decide
  induction n using Nat.strongRecOn with
  | _ n ih =>
      rw [Nat.toDigits_eq_if (by decide)] at h
      split at h
      · next hlt =>
          rw [List.mem_singleton.mp h]
          exact hdigit n hlt
      · next hge =>
          rcases List.mem_append.mp h with h | h
          · exact ih (n / 16) (by omega) h
          · rw [List.mem_singleton.mp h]
            exact hdigit _ (Nat.mod_lt _ (by decide))

theorem isValid_fallback (n : UInt64) : isValid ("server_".toList ++ hexText n) = true := by
  have hhex : ∀ c ∈ hexText n, c.isAlphanum = true := fun c => isAlphanum_of_mem_toDigits n.toNat
  have hfront : ∀ c ∈ "server_".toList, isNameChar c = true := List.all_eq_true.mp (by decide)
  have hmark : '_' ∉ hexText n := fun h => absurd (hhex _ h) (by decide)
  refine isValid_iff.mpr ⟨⟨'s', rfl, rfl⟩, fun c hc => ?_, ?_⟩
  · rcases List.mem_append.mp hc with hc | hc
    · exact hfront c hc
    · simp [isNameChar, hhex c hc]
  · -- An underscore stands at one place only.
    intro hpart
    have hcount := hpart.sublist.count_le '_'
    rw [List.count_append, List.count_eq_zero_of_not_mem hmark] at hcount
    exact absurd hcount (by decide)

/-- **Every name is made valid**, whichever way it is put in snake case. -/
theorem isValid_ofSnake (snake : List Char) (fallback : UInt64) :
    isValid (ofSnake snake fallback) = true := by
  unfold ofSnake
  split
  · assumption
  · split
    · exact isValid_fallback fallback
    · next c rest hclean =>
        rw [← hclean]
        have hhead : (clean snake).head? = some c := by rw [hclean]; rfl
        refine isValid_iff.mpr ⟨⟨c, hhead, ?_⟩, fun d hd => ?_, not_infix_collapse _⟩
        · rw [clean, head?_collapse] at hhead
          simpa [hhead] using List.head?_dropWhile_not (!isLetter ·) (snake.filter isNameChar)
        · have hmem := (List.dropWhile_suffix _).subset (mem_of_mem_collapse hd)
          exact (List.mem_filter.mp hmem).2

theorem isValid_sanitizeBy (snake : String → String) (number : String → UInt64) (name : String) :
    isValid (sanitizeBy snake number name).toList = true := by
  rw [sanitizeBy, String.toList_ofList]
  exact isValid_ofSnake _ _

/-! ## Names that differ -/

/-- A one at the end of a name changes nothing about its validity. -/
theorem isValid_push {name : String} (h : isValid name.toList = true) :
    isValid (name.push '1').toList = true := by
  obtain ⟨⟨c, hhead, hc⟩, hall, hpart⟩ := isValid_iff.mp h
  rw [String.toList_push]
  refine isValid_iff.mpr ⟨⟨c, ?_, hc⟩, ?_, ?_⟩
  · rw [List.head?_append, hhead]
    rfl
  · exact List.forall_mem_append.mpr ⟨hall, List.forall_mem_singleton.mpr (by decide)⟩
  · intro hinfix
    rcases List.infix_concat_iff.mp hinfix with hsuffix | hinfix
    · have hlast := hsuffix.getLast (by decide)
      rw [List.getLast_append_singleton] at hlast
      exact absurd hlast (by decide)
    · exact hpart hinfix

theorem isValid_fresh (taken : List String) {name : String} (h : isValid name.toList = true) :
    isValid (fresh taken name).toList = true := by
  fun_induction fresh taken name with
  | case1 name _ ih => exact ih (isValid_push h)
  | case2 => exact h

theorem fresh_notMem (taken : List String) (name : String) : fresh taken name ∉ taken := by
  fun_induction fresh taken name with
  | case1 _ _ ih => exact ih
  | case2 _ h => exact h

section Assigning

variable {nameOf : String → String}

theorem map_fst_assignFrom (taken originals : List String) :
    (assignFrom nameOf taken originals).map (·.1) = originals := by
  induction originals generalizing taken with
  | nil => rfl
  | cons given rest ih => rw [assignFrom, List.map_cons, ih]

/-- What is given is valid, if the names are made so. -/
theorem isValid_of_mem_assignFrom (hvalid : ∀ name, isValid (nameOf name).toList = true)
    {taken originals : List String} :
    ∀ e ∈ assignFrom nameOf taken originals, isValid e.2.toList = true := by
  induction originals generalizing taken with
  | nil => exact fun _ h => absurd h List.not_mem_nil
  | cons given rest ih =>
      exact List.forall_mem_cons.mpr ⟨isValid_fresh taken (hvalid given), ih⟩

/-- What is given differs from what was given before, and from one another. -/
theorem assignFrom_spec (taken originals : List String) :
    (∀ e ∈ assignFrom nameOf taken originals, e.2 ∉ taken) ∧
      ((assignFrom nameOf taken originals).map (·.2)).Nodup := by
  induction originals generalizing taken with
  | nil => exact ⟨fun _ h => absurd h List.not_mem_nil, .nil⟩
  | cons given rest ih =>
      obtain ⟨hrest, hdiffer⟩ := ih (taken ++ [fresh taken (nameOf given)])
      rw [assignFrom]
      constructor
      · refine List.forall_mem_cons.mpr ⟨fresh_notMem _ _, fun e he h => ?_⟩
        exact hrest e he (List.mem_append_left _ h)
      · rw [List.map_cons]
        refine List.nodup_cons.mpr ⟨fun hmem => ?_, hdiffer⟩
        obtain ⟨e, he, heq⟩ := List.mem_map.mp hmem
        exact hrest e he (List.mem_append_right _ (heq ▸ List.mem_singleton_self _))

theorem map_fst_assignBy (nameOf : String → String) (originals : List String) :
    (assignBy nameOf originals).map (·.1) = originals :=
  map_fst_assignFrom [] originals

/-- **Several servers get names that differ.** -/
theorem nodup_assignBy (nameOf : String → String) (originals : List String) :
    ((assignBy nameOf originals).map (·.2)).Nodup :=
  (assignFrom_spec [] originals).2

end Assigning

theorem isValid_of_mem_assign {originals : List String} {e : String × String}
    (h : e ∈ assign originals) : isValid e.2.toList = true :=
  isValid_of_mem_assignFrom (isValid_sanitizeBy _ _) e h

end ToolAgent.ServerName
