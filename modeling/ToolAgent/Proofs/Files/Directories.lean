import ToolAgent.Proofs.Files.Creation
import ToolAgent.Proofs.Files.Paths

/-!
# Making directories

Making a directory with those above it that are missing changes nothing that is there: what is new
are directories, and a path at or above the given one leads to each of them, however far the making
came (`became_makeDirsFrom`). The paths above a path have no slashes at their end
(`bare_of_parent?`), so the one that a directory is made by is the one that leads to it.
-/

namespace ToolAgent

/-! ## What has become of a tree -/

/-- Everything in a tree is still there, only the file at `written` may have another content. What
is new is that file, or a directory of which `made` tells. -/
structure Entry.Became (written : Option Location) (made : Location → Prop) (tree tree' : Entry) :
    Prop where
  grows : tree.Grows tree'
  content : ∀ location, written ≠ some location →
    tree'.contentAt location = tree.contentAt location
  added : ∀ location, tree.kindAt location = none → tree'.kindAt location ≠ none →
    written = some location ∨ tree'.kindAt location = some .dir ∧ made location

namespace Entry.Became

variable {written : Option Location} {made made' : Location → Prop} {tree tree' tree'' : Entry}

theorem refl (tree : Entry) : Became written made tree tree :=
  ⟨fun _ _ h => h, fun _ _ => rfl, fun _ hnone hsome => absurd hnone hsome⟩

theorem mono (h : Became written made tree tree') (hmade : ∀ l, made l → made' l) :
    Became written made' tree tree' :=
  ⟨h.grows, h.content, fun l hnone hsome =>
    (h.added l hnone hsome).imp_right (.imp_right (hmade l))⟩

/-- First directories are made, then perhaps a file is written. -/
theorem trans (h : Became none made tree tree') (h' : Became written made tree' tree'') :
    Became written made tree tree'' := by
  refine ⟨h.grows.trans h'.grows, ?_, ?_⟩
  · intro l hl
    rw [h'.content l hl, h.content l nofun]
  · intro l hnone hsome
    cases hmid : tree'.kindAt l with
    | none => exact h'.added l hmid hsome
    | some kind =>
        rcases h.added l hnone (by rw [hmid]; nofun) with hwritten | ⟨hdir, hmade⟩
        · cases hwritten
        · exact .inr ⟨h'.grows hdir, hmade⟩

/-- A file is written at a location, where there was a file or nothing. -/
theorem put_file {location : Location} (h : ∀ e, tree.get? location = some e → e.isFile)
    (content : Bytes) :
    Became (some location) made tree (tree.put location (.file content)) := by
  have hold : ∀ e, tree.get? location = some e → e.children = [] := by
    intro e he
    cases e with
    | file _ => rfl
    | link _ => rfl
    | dir _ => cases h _ he
  have hsame : ∀ {l}, l ≠ location →
      (tree.put location (.file content)).kindAt l = tree.kindAt l :=
    map_get?_put (fun _ _ => rfl) hold rfl
  refine ⟨?_, ?_, ?_⟩
  · intro l kind hkind
    by_cases hl : l = location
    · subst hl
      obtain ⟨e, he, rfl⟩ := Option.map_eq_some_iff.mp hkind
      cases e with
      | file old => rw [kindAt_put he, hkind]
      | link _ => cases h _ he
      | dir _ => cases h _ he
    · rw [hsame hl, hkind]
  · intro l hl
    have hne : l ≠ location := fun heq => hl (congrArg some heq.symm)
    rw [contentAt, map_get?_put (fun _ _ => rfl) hold rfl hne]
    rfl
  · intro l hnone hsome
    refine .inl (congrArg some ?_)
    by_contra hne
    rw [hsame (Ne.symm hne)] at hsome
    exact hsome hnone

/-- A directory is made at a free place. -/
theorem put_dir {location : Location} (hfree : tree.get? location = none)
    (hthere : (tree.put location (.dir [])).get? location = some (.dir [])) :
    Became none (· = location) tree (tree.put location (.dir [])) := by
  refine ⟨Files.grows_put hfree rfl, ?_, ?_⟩
  · intro l _
    by_cases hl : l = location
    · rw [hl, contentAt, contentAt, hfree, hthere]
      rfl
    · rw [contentAt, map_get?_put (fun _ _ => rfl) (by simp [hfree]) rfl hl]
      rfl
  · intro l hnone hsome
    have hl : l = location := by
      by_contra hl
      rw [kindAt, map_get?_put (fun _ _ => rfl) (by simp [hfree]) rfl hl] at hsome
      exact hsome hnone
    refine .inr ⟨?_, hl⟩
    rw [hl]
    exact Files.kindAt_of_get? hthere

end Entry.Became

namespace Files

open ToolAgent.Path (AtOrAbove)

theorem bare_of_parent? {path parent : String} (h : Path.parent? path = some parent) :
    bare parent = parent := by
  rcases Path.getLast?_of_parent? h with rfl | hlast
  · decide +kernel
  · have htext : Text.dropWhileEnd (· == '/') parent.toList = parent.toList := by
      refine Text.dropWhileEnd_of_getLast? fun c hc => ?_
      have hne : c ≠ '/' := fun heq => hlast (heq ▸ hc)
      simpa using hne
    rw [bare, htext, String.ofList_toList]
    simp

/-! ## Making them -/

/-- The path leads to a directory at this location. -/
def LeadsToDir (root : Entry) (cwd : Location) (path : String) (location : Location) : Prop :=
  ∃ children, find root cwd path = .ok (location, .dir children)

variable {root root' : Entry} {cwd location : Location} {path : String}

theorem LeadsToDir.grown (h : LeadsToDir root cwd path location) (hgrows : root.Grows root') :
    LeadsToDir root' cwd path location := by
  obtain ⟨children, hfind⟩ := h
  obtain ⟨e, hfind', he⟩ := find_grown hgrows hfind
  have hkind := hgrows (kindAt_of_get? (get?_of_find hfind))
  rw [kindAt_of_get? he] at hkind
  cases e with
  | dir children' => exact ⟨children', hfind'⟩
  | file _ => cases hkind
  | link _ => cases hkind

/-- Whether a link at its end is followed does not matter to a path that leads to a free place. -/
theorem walkFrom_follow {links : Nat} {here : Location} {todo : List String}
    (h : walkFrom root false links here todo = .ok (.vacant location)) :
    walkFrom root true links here todo = .ok (.vacant location) := by
  fun_induction walkFrom root false links here todo with
  | case3 links here rest children hdir ih =>
      rw [walkFrom_dot (kindAt_of_get? hdir)]
      exact ih h
  | case4 links here rest children hdir hdot ih =>
      rw [walkFrom_up (kindAt_of_get? hdir)]
      exact ih h
  | case6 links here name children hdir hdot hup hlong hfree =>
      rw [walkFrom, hdir]
      dsimp only
      rw [if_neg hdot, if_neg hup, if_neg hlong, hfree]
      exact h
  | case11 here name rest children hdir hdot hup hlong target hlink hlast links htarget ih =>
      rw [walkFrom_link (kindAt_of_get? hdir) hdot hup hlong (kindAt_of_find? hdir hlink) (by simp)
        htarget]
      exact ih h
  | case12 links here name rest children hdir hdot hup hlong e hnolink he ih =>
      rw [walkFrom_down (kindAt_of_get? hdir) hdot hup hlong (kindAt_of_find? hdir he)
        (kind_ne_link hnolink)]
      exact ih h
  -- Elsewhere the path ends at an entry or in an error.
  | _ => cases h

/-- **Making one directory** adds it, and the path leads to it. -/
theorem became_makeDir (hbare : bare path = path) (h : makeDir root cwd path = .ok root') :
    Entry.Became none (LeadsToDir root' cwd path) root root' := by
  rw [makeDir, hbare] at h
  split at h
  · cases h
  · next location hwalk =>
      obtain rfl := Except.ok.inj h
      obtain ⟨hfree, hthere⟩ := free_of_vacant hwalk (.dir [])
      have hbecame := Entry.Became.put_dir hfree hthere
      obtain ⟨hpath, hsteps⟩ := walk_eq_ok_iff.mp hwalk
      have hfollow := walk_eq_ok_iff.mpr ⟨hpath, walkFrom_follow hsteps⟩
      obtain ⟨e, hfound⟩ := walk_grown hbecame.grows hfollow fun l hl => by
        cases hl
        exact .inr (kindAt_of_get? hthere)
      have hfind := find_eq_ok_iff.mpr hfound
      obtain rfl := Option.some.inj (hthere.symm.trans (get?_of_find hfind))
      refine hbecame.mono fun l hl => ?_
      rw [hl]
      exact ⟨[], hfind⟩
  · cases h

/-- A path at or above another one leads to a directory at this location. -/
def Encloses (root : Entry) (cwd : Location) (path : String) (location : Location) : Prop :=
  ∃ above, AtOrAbove above path ∧ LeadsToDir root cwd above location

theorem Encloses.of_parent {parent : String} (hparent : Path.parent? path = some parent)
    (h : Encloses root cwd parent location) : Encloses root cwd path location := by
  obtain ⟨above, habove, hleads⟩ := h
  exact ⟨above, .parent hparent habove, hleads⟩

theorem Encloses.grown (h : Encloses root cwd path location) (hgrows : root.Grows root') :
    Encloses root' cwd path location := by
  obtain ⟨above, habove, hleads⟩ := h
  exact ⟨above, habove, hleads.grown hgrows⟩

/-- **Making directories** adds directories only, and only those that the path tells of; this is so
as well if it cannot be finished. -/
theorem became_makeDirsFrom {depth : Nat} (hbare : bare path = path) :
    Entry.Became none (Encloses (makeDirsFrom depth root cwd path).2 cwd path) root
      (makeDirsFrom depth root cwd path).2 := by
  fun_induction makeDirsFrom depth root cwd path with
  | case1 => exact .refl root
  | case2 _ path _ made hmake =>
      exact (became_makeDir hbare hmake).mono fun l hl => ⟨path, .self path, hl⟩
  | case3 path _ _ depth parent hparent e made hmade ih =>
      have hbecame := ih (bare_of_parent? hparent)
      rw [hmade] at hbecame
      exact hbecame.mono fun l hl => hl.of_parent hparent
  | case4 path _ _ depth parent hparent made hmade made' hmake ih =>
      have hbecame := ih (bare_of_parent? hparent)
      rw [hmade] at hbecame
      have hlast := became_makeDir hbare hmake
      refine .trans (hbecame.mono fun l hl => ?_) (hlast.mono fun l hl => ⟨path, .self path, hl⟩)
      exact (hl.of_parent hparent).grown hlast.grows
  | case5 path _ _ depth parent hparent made hmade e _ ih =>
      have hbecame := ih (bare_of_parent? hparent)
      rw [hmade] at hbecame
      exact hbecame.mono fun l hl => hl.of_parent hparent
  | case6 => exact .refl root
  | case7 => exact .refl root

end Files

end ToolAgent
