import ToolAgent.Proofs.Files.Writing

/-!
# Creating a file

A path that leads to a free name stops there. What is put under the name is all that is new
(`grows_put`), so the path leads to it (`walk_put`). With what holds of files that are there
already, the path under which a file was written leads to the file (`find_of_writeBytes`).
-/

namespace ToolAgent

namespace Entry

variable {tree : Entry} {here : Location} {name : String} {children : List (String × Entry)}

/-- What is put into a directory is found there. -/
theorem get?_put_child (hdir : tree.get? here = some (.dir children)) (new : Entry) :
    (tree.put (here ++ [name]) new).get? (here ++ [name]) = some new := by
  induction here generalizing tree with
  | nil =>
      obtain rfl := Option.some.inj hdir
      rw [List.nil_append, put, get?_withChild, if_pos rfl]
      rfl
  | cons first rest ih =>
      obtain ⟨child, hchild, hrest⟩ := Option.bind_eq_some_iff.mp hdir
      obtain ⟨siblings, rfl⟩ := eq_dir_of_find? hchild
      rw [List.cons_append, put_cons hchild, get?_withChild, if_pos rfl]
      exact ih hrest

end Entry

namespace Files

variable {root root' : Entry} {location : Location}

/-- A path that leads to a free place leads to a free name in a directory. -/
theorem exists_of_vacant {follow : Bool} {links : Nat} {here : Location} {todo : List String}
    (h : walkFrom root follow links here todo = .ok (.vacant location)) :
    ∃ parent name children, location = parent ++ [name] ∧
      root.get? parent = some (.dir children) ∧ Entries.find? name children = none := by
  fun_induction walkFrom root follow links here todo with
  | case6 links here name children hdir hdot hup hlong hnone =>
      cases h
      exact ⟨here, name, children, rfl, hdir, hnone⟩
  -- Elsewhere the path ends at an entry or in an error, or goes on.
  | _ => simp_all

/-- At a free place the tree can be put into, and there is nothing there. -/
theorem free_of_vacant {cwd : Location} {follow : Bool} {path : String}
    (h : walk root cwd follow path = .ok (.vacant location)) (new : Entry) :
    root.get? location = none ∧ (root.put location new).get? location = some new := by
  obtain ⟨parent, name, children, rfl, hdir, hfree⟩ := exists_of_vacant (walk_eq_ok_iff.mp h).2
  refine ⟨?_, Entry.get?_put_child hdir new⟩
  rw [Entry.get?_concat, hdir]
  exact hfree

/-- **What is put at a free place** is all that is new. -/
theorem grows_put {new : Entry} (hfree : root.get? location = none) (hnew : new.children = []) :
    root.Grows (root.put location new) := by
  intro l kind hkind
  have hne : l ≠ location := by
    rintro rfl
    rw [Entry.kindAt, hfree] at hkind
    cases hkind
  rw [Entry.kindAt, Entry.map_get?_put (fun _ _ => rfl) (by simp [hfree]) hnew hne]
  exact hkind

/-- A path that leads to a free place leads to the file that is put there. -/
theorem walk_put {cwd : Location} {path : String}
    (h : walk root cwd true path = .ok (.vacant location)) (content : Bytes) :
    walk (root.put location (.file content)) cwd true path =
      .ok (.found location (.file content)) := by
  obtain ⟨hfree, hthere⟩ := free_of_vacant h (.file content)
  obtain ⟨e, hwalk⟩ := walk_grown (grows_put hfree rfl) h fun l hl => by
    cases hl
    exact .inl (kindAt_of_get? hthere)
  have he := get?_of_find (find_eq_ok_iff.mpr hwalk)
  obtain rfl := Option.some.inj (hthere.symm.trans he)
  exact hwalk

/-- **Reading back what was written**: a file is written at one location, where there was a file or
nothing, and the path leads to it. -/
theorem find_of_writeBytes {cwd : Location} {path : String} {content : Bytes}
    (h : writeBytes root cwd path content = .ok root') :
    ∃ location, root' = root.put location (.file content) ∧
      find root' cwd path = .ok (location, .file content) ∧
      ((∃ old, find root cwd path = .ok (location, .file old)) ∨
        walk root cwd true path = .ok (.vacant location)) := by
  rw [writeBytes] at h
  split at h
  · next location old hwalk =>
      obtain rfl := Except.ok.inj h
      have hfind := find_eq_ok_iff.mpr hwalk
      exact ⟨location, rfl, find_put hfind content, .inl ⟨old, hfind⟩⟩
  · cases h
  · cases h
  · next location hwalk =>
      obtain rfl := Except.ok.inj h
      exact ⟨location, rfl, find_eq_ok_iff.mpr (walk_put hwalk content), .inr hwalk⟩
  · -- A path that leads nowhere is refused, in one way or another.
    split at h
    · split at h <;> cases h
    · cases h

end Files

end ToolAgent
