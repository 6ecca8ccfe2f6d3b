import ToolAgent.Proofs.Files.Directories
import ToolAgent.Proofs.Tool.Replacement

/-!
# What a writing call leaves alone

A call writes one file at most. A call that edits a file does so last, when nothing can go wrong any
more, or leaves the tree as it is (`run_edit`). A call that creates a file makes the missing
directories of its path first, and these stay if the file cannot be written (`run_create`).
`run_frame` puts both together: apart from that file and these directories the tree stays as it is.
-/

namespace ToolAgent

/-- A directory that a path names: a path above it leads there. -/
def Files.NamedBy (root : Entry) (cwd : Location) (path : String) (location : Location) : Prop :=
  ∃ parent, Path.parent? path = some parent ∧ Encloses root cwd parent location

namespace FileWrite

open Files (NamedBy)

variable {w : Workplace} {tree tree' : Entry}

/-- Whether a call changes a file that has to be there. -/
def edits : FileWrite → Bool
  | create _ _ => false
  | replace _ _ _ | append _ _ => true

/-! ## Writing -/

/-- What has a text is a file. -/
theorem find_of_load {path : String} {text : List Char} (h : load w tree path = .ok text) :
    ∃ location old, Files.find tree w.base path = .ok (location, .file old) := by
  rw [load, Files.readText, Files.readBytes] at h
  split at h
  · next hread =>
      split at hread
      · next hbytes =>
          split at hbytes
          · next location content hfind => exact ⟨location, content, hfind⟩
          · cases hbytes
          · cases hbytes
          · cases hbytes
      · cases hread
  · cases h

/-- **Writing a file** changes that file, the one that the path led to if it led anywhere. -/
theorem became_of_store {path : String} {text : List Char}
    (h : store w tree path text = .ok tree') (made : Location → Prop) :
    ∃ location, Files.find tree' w.base path = .ok (location, .file (Utf8.encode text)) ∧
      (∀ found, Files.find tree w.base path = .ok found → found.1 = location) ∧
      Entry.Became (some location) made tree tree' := by
  rw [store] at h
  split at h
  · next written hwrite =>
      obtain rfl := Except.ok.inj h
      obtain ⟨location, rfl, hfind, hbefore⟩ := Files.find_of_writeBytes hwrite
      refine ⟨location, hfind, ?_, .put_file ?_ _⟩
      · intro found hfound
        rcases hbefore with ⟨old, hold⟩ | hvacant
        · rw [hold] at hfound
          exact congrArg Prod.fst (Except.ok.inj hfound).symm
        · rw [Files.find_eq_ok_iff.mp hfound] at hvacant
          cases hvacant
      · intro e he
        rcases hbefore with ⟨old, hold⟩ | hvacant
        · obtain rfl := Option.some.inj (he.symm.trans (Files.get?_of_find hold))
          rfl
        · rw [(Files.free_of_vacant hvacant e).1] at he
          cases he
  · cases h

/-! ## The calls -/

/-- **An edit** changes the content of its file, or fails and changes nothing. -/
theorem run_edit {c : FileWrite} (h : c.edits = true) (w : Workplace) (tree : Entry) :
    (∃ e, run w tree c = (.error e, tree)) ∨
      ∃ location old new, Files.find tree w.base (w.resolve c.path) = .ok (location, .file old) ∧
        run w tree c = (.ok (.text ""), tree.put location (.file new)) := by
  cases c with
  | create path text => cases h
  | replace path old new =>
      cases hload : load w tree (w.resolve path) with
      | error e => exact .inl ⟨e, by simp only [run, FileWrite.path, hload]⟩
      | ok text =>
          obtain ⟨location, content, hfile⟩ := find_of_load hload
          cases hreplaced : replaceOnce text old.toList new.toList with
          | error fault =>
              exact .inl ⟨.tool fault.message, by simp only [run, FileWrite.path, hload, hreplaced]⟩
          | ok edited =>
              refine .inr ⟨location, content, Utf8.encode edited, hfile, ?_⟩
              simp only [run, FileWrite.path, hload, hreplaced, store_of_find hfile]
  | append path new =>
      cases hload : load w tree (w.resolve path) with
      | error e => exact .inl ⟨e, by simp only [run, FileWrite.path, hload]⟩
      | ok text =>
          obtain ⟨location, content, hfile⟩ := find_of_load hload
          refine .inr ⟨location, content, Utf8.encode (appendLines text new.toList), hfile, ?_⟩
          simp only [run, FileWrite.path, hload, store_of_find hfile]

theorem became_prepare (w : Workplace) (tree : Entry) (path : String) :
    Entry.Became none (NamedBy (prepare w tree path).2 w.base path) tree
      (prepare w tree path).2 := by
  unfold prepare
  split
  · next parent hparent =>
      exact (Files.became_makeDirsFrom (Files.bare_of_parent? hparent)).mono
        fun l hl => ⟨parent, hparent, hl⟩
  · exact .refl tree

/-- **Creating a file** first makes the directories that its path names. They stay if the file
cannot be written. -/
theorem run_create (w : Workplace) (tree : Entry) (path : String) (text : Option String) :
    (∃ e, run w tree (.create path text) = (.error e, (prepare w tree (w.resolve path)).2)) ∨
      ∃ tree', store w (prepare w tree (w.resolve path)).2 (w.resolve path)
          (closeLine (text.getD "").toList) = .ok tree' ∧
        run w tree (.create path text) = (.ok (.text ""), tree') := by
  cases hprepare : prepare w tree (w.resolve path) with
  | mk result made =>
      cases result with
      | error e => exact .inl ⟨.io e.message, by simp only [run, FileWrite.path, hprepare]⟩
      | ok _ =>
          cases hstore : store w made (w.resolve path) (closeLine (text.getD "").toList) with
          | error e => exact .inl ⟨e, by simp only [run, FileWrite.path, hprepare, hstore]⟩
          | ok tree' =>
              exact .inr ⟨tree', rfl, by simp only [run, FileWrite.path, hprepare, hstore]⟩

/-- What a call with this result may have made of the tree. Nothing that is there goes away or
becomes something else (`Entry.Became`), and all that can be new, but for the file itself, are
missing directories that the path names. -/
inductive Effect (w : Workplace) (tree : Entry) (c : FileWrite) :
    Except Error Output → Entry → Prop
  /-- A call that fails changes the content of no file; an edit that fails changes nothing. -/
  | failed {e : Error} {tree' : Entry} :
      Entry.Became none (NamedBy tree' w.base (w.resolve c.path)) tree tree' →
      (c.edits = true → tree' = tree) → Effect w tree c (.error e) tree'
  /-- A call that succeeds changes the content of the file that its path leads to, the one that it
  led to before if it led anywhere. An edit changes a file that was there, and adds nothing. -/
  | written {output : Output} {tree' : Entry} {location : Location} {content : Bytes} :
      Files.find tree' w.base (w.resolve c.path) = .ok (location, .file content) →
      (∀ found, Files.find tree w.base (w.resolve c.path) = .ok found → found.1 = location) →
      Entry.Became (some location) (NamedBy tree' w.base (w.resolve c.path)) tree tree' →
      (c.edits = true →
        (∃ old, Files.find tree w.base (w.resolve c.path) = .ok (location, .file old)) ∧
        tree'.kindAt = tree.kindAt) →
      Effect w tree c (.ok output) tree'

theorem effect_edit {c : FileWrite} (h : c.edits = true) (w : Workplace) (tree : Entry) :
    Effect w tree c (run w tree c).1 (run w tree c).2 := by
  rcases run_edit h w tree with ⟨e, hrun⟩ | ⟨location, old, new, hfile, hrun⟩
  · rw [hrun]
    exact .failed (.refl tree) fun _ => rfl
  · have hold := Files.get?_of_find hfile
    rw [hrun]
    refine .written (Files.find_put hfile new) ?_ (.put_file ?_ new)
      fun _ => ⟨⟨old, hfile⟩, Entry.kindAt_put hold new⟩
    · intro found hfound
      rw [hfile] at hfound
      exact congrArg Prod.fst (Except.ok.inj hfound).symm
    · intro e he
      obtain rfl := Option.some.inj (hold.symm.trans he)
      rfl

theorem effect_create (w : Workplace) (tree : Entry) (path : String) (text : Option String) :
    Effect w tree (.create path text) (run w tree (.create path text)).1
      (run w tree (.create path text)).2 := by
  have hprepare := became_prepare w tree (w.resolve path)
  rcases run_create w tree path text with ⟨e, hrun⟩ | ⟨tree', hstore, hrun⟩
  · rw [hrun]
    exact .failed hprepare nofun
  · rw [hrun]
    obtain ⟨location, hfind, hbefore, hbecame⟩ := became_of_store hstore
      (NamedBy tree' w.base (w.resolve path))
    refine .written hfind ?_ (.trans (hprepare.mono fun l hl => ?_) hbecame) nofun
    · intro found hfound
      obtain ⟨e, hmade, -⟩ := Files.find_grown hprepare.grows hfound
      exact hbefore (found.1, e) hmade
    · obtain ⟨parent, hparent, hencloses⟩ := hl
      exact ⟨parent, hparent, hencloses.grown hbecame.grows⟩

/-- **What a call leaves alone**: everything but the file that it writes and, if it creates that
file, the missing directories of its path. -/
theorem run_frame (w : Workplace) (tree : Entry) (c : FileWrite) :
    Effect w tree c (run w tree c).1 (run w tree c).2 := by
  cases c with
  | create path text => exact effect_create w tree path text
  | replace path old new => exact effect_edit rfl w tree
  | append path new => exact effect_edit rfl w tree

end FileWrite

end ToolAgent
