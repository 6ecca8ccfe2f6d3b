import ToolAgent.Files.Operations
import ToolAgent.Proofs.Table

/-!
# Writing a file

Putting a file or an empty directory at a location changes nothing elsewhere
(`Entry.map_get?_put`), and a path looks at no more than the kinds of the entries (`walkFrom_cons`,
and its steps one by one after it). So in a tree that has only grown a path leads to where it led
(`walk_grown`), and the path that led to a file leads to it with the content that it is given
(`find_put`).
-/

namespace ToolAgent

/-- What an entry is to a path that goes through it. -/
inductive Entry.Kind
  | file
  | dir
  | link (target : String)

namespace Entry

/-- The kind of an entry. -/
def kind : Entry → Kind
  | file _ => .file
  | dir _ => .dir
  | link target => .link target

/-- What a path finds at a location of the tree. -/
def kindAt (tree : Entry) (location : Location) : Option Kind := (tree.get? location).map kind

/-- The bytes of an entry, if it is a file. -/
def content? : Entry → Option Bytes
  | file content => some content
  | _ => none

/-- The bytes of the file at a location. -/
def contentAt (tree : Entry) (location : Location) : Option Bytes :=
  ((tree.get? location).map content?).join

theorem get?_concat (location : Location) (name : String) (tree : Entry) :
    tree.get? (location ++ [name]) =
      (tree.get? location).bind fun e => Entries.find? name e.children := by
  induction location generalizing tree with
  | nil => simp [get?]
  | cons first rest ih =>
      rw [List.cons_append, get?, get?]
      cases Entries.find? first tree.children with
      | none => rfl
      | some child => exact ih child

/-! ## Changing an entry -/

theorem eq_dir_of_find? {e : Entry} {name : String} {child : Entry}
    (h : Entries.find? name e.children = some child) : ∃ children, e = .dir children := by
  cases e with
  | dir children => exact ⟨children, rfl⟩
  | file _ => cases h
  | link _ => cases h

theorem put_cons {e child : Entry} {name : String} (h : Entries.find? name e.children = some child)
    (rest : Location) (new : Entry) :
    e.put (name :: rest) new = e.withChild name (child.put rest new) := by
  cases rest with
  | nil => rfl
  | cons next more => rw [put, h]; simp

/-- A changed child is found under its name, and the other children are as they were. -/
theorem get?_withChild {children : List (String × Entry)} (name : String) (child : Entry)
    (looked : String) (more : Location) :
    ((dir children).withChild name child).get? (looked :: more) =
      if name = looked then child.get? more else (dir children).get? (looked :: more) := by
  rw [withChild, get?, Entry.children, Entries.find?_put]
  split <;> rfl

theorem get?_put {location : Location} {tree old : Entry} (h : tree.get? location = some old)
    (new : Entry) : (tree.put location new).get? location = some new := by
  induction location generalizing tree with
  | nil => rfl
  | cons name rest ih =>
      obtain ⟨child, hchild, hrest⟩ := Option.bind_eq_some_iff.mp h
      obtain ⟨children, rfl⟩ := eq_dir_of_find? hchild
      rw [put_cons hchild, get?_withChild, if_pos rfl]
      exact ih hrest

/-- **What a change leaves alone.** Where nothing is below a location, putting an entry there that
has nothing below it changes nothing about what is found elsewhere, apart from what the
directories on the way hold. -/
theorem map_get?_put {β : Type} {f : Entry → β} (hf : ∀ cs cs', f (.dir cs) = f (.dir cs'))
    {tree new : Entry} {location looked : Location}
    (hold : ∀ e, tree.get? location = some e → e.children = []) (hnew : new.children = [])
    (hne : looked ≠ location) :
    ((tree.put location new).get? looked).map f = (tree.get? looked).map f := by
  have hbelow : ∀ (e : Entry) name rest, e.children = [] → e.get? (name :: rest) = none := by
    intro e name rest he
    rw [get?, he]
    rfl
  induction location generalizing tree looked with
  | nil =>
      cases looked with
      | nil => exact absurd rfl hne
      | cons name rest => rw [put, hbelow new name rest hnew, hbelow tree name rest (hold tree rfl)]
  | cons name rest ih =>
      cases tree with
      -- Nothing is put into a file or a link.
      | file content => cases rest <;> rfl
      | link target => cases rest <;> rfl
      | dir children =>
          cases hchild : Entries.find? name children with
          | some child =>
              -- The change is made in this child, which a look at another name does not meet.
              rw [put_cons hchild]
              cases looked with
              | nil => exact congrArg some (hf _ _)
              | cons first more =>
                  rw [get?_withChild]
                  split
                  · next hname =>
                      subst hname
                      have hsub : ∀ e, child.get? rest = some e → e.children = [] := by
                        intro e he
                        refine hold e ?_
                        rw [get?, Entry.children, hchild]
                        exact he
                      have hmore : more ≠ rest := fun h => hne (by rw [h])
                      rw [ih hsub hmore, get?, Entry.children, hchild]
                      rfl
                  · rfl
          | none =>
              cases rest with
              | nil =>
                  rw [put]
                  cases looked with
                  | nil => exact congrArg some (hf _ _)
                  | cons first more =>
                      rw [get?_withChild]
                      split
                      · next hname =>
                          subst hname
                          cases more with
                          | nil => exact absurd rfl hne
                          | cons next below =>
                              rw [hbelow new next below hnew, get?, Entry.children, hchild]
                              rfl
                      · rfl
              | cons next below =>
                  -- Without the directories on the way nothing is put.
                  rw [put, Entry.children, hchild]
                  · simp

/-- **A file that is written anew** is found where it was, and nothing else is found anywhere. -/
theorem kindAt_put {location : Location} {tree : Entry} {old : Bytes}
    (h : tree.get? location = some (.file old)) (new : Bytes) :
    (tree.put location (.file new)).kindAt = tree.kindAt := by
  funext looked
  by_cases hlooked : looked = location
  · rw [hlooked, kindAt, kindAt, get?_put h, h]
    rfl
  · refine map_get?_put (fun _ _ => rfl) ?_ rfl hlooked
    intro e he
    obtain rfl := Option.some.inj (h.symm.trans he)
    rfl

/-- All that a path finds in one tree it finds in the other. -/
def Grows (tree tree' : Entry) : Prop :=
  ∀ ⦃location kind⦄, tree.kindAt location = some kind → tree'.kindAt location = some kind

namespace Grows

variable {tree tree' tree'' : Entry}

theorem of_kindAt_eq (h : tree'.kindAt = tree.kindAt) : tree.Grows tree' := fun location _ hkind =>
  (congrFun h location).trans hkind

theorem trans (h : tree.Grows tree') (h' : tree'.Grows tree'') : tree.Grows tree'' :=
  fun _ _ hkind => h' (h hkind)

end Grows

end Entry

/-- Where a path leads. -/
def Place.location : Place → Location
  | .found location _ => location
  | .vacant location => location

namespace Files

variable {root root' : Entry}

/-! ## What a path finds -/

theorem kindAt_of_get? {location : Location} {e : Entry} (h : root.get? location = some e) :
    root.kindAt location = some e.kind := by
  rw [Entry.kindAt, h]
  rfl

theorem kindAt_of_dir {here : Location} {children : List (String × Entry)}
    (h : root.get? here = some (.dir children)) (name : String) :
    root.kindAt (here ++ [name]) = (Entries.find? name children).map Entry.kind := by
  rw [Entry.kindAt, Entry.get?_concat, h]
  rfl

theorem kindAt_of_find? {here : Location} {children : List (String × Entry)} {name : String}
    {child : Entry} (h : root.get? here = some (.dir children))
    (hchild : Entries.find? name children = some child) :
    root.kindAt (here ++ [name]) = some child.kind := by
  rw [kindAt_of_dir h, hchild]
  rfl

/-- What is no link is not taken for one by a path. -/
theorem kind_ne_link {e : Entry} (h : ∀ target, e ≠ .link target) (target : String) :
    e.kind ≠ .link target := by
  cases e with
  | file _ => rintro ⟨⟩
  | dir _ => rintro ⟨⟩
  | link target => exact absurd rfl (h target)

/-- A path goes through a tree by the kinds of the entries. -/
theorem walkFrom_cons (follow : Bool) (links : Nat) (here : Location) (name : String)
    (rest : List String) :
    walkFrom root follow links here (name :: rest) =
      match root.kindAt here with
      | some .dir =>
        if name = "." then walkFrom root follow links here rest
        else if name = ".." then walkFrom root follow links here.dropLast rest
        else if maxName < Utf8.sizeOf name then .error .nameTooLong
        else match root.kindAt (here ++ [name]) with
          | none => if rest = [] then .ok (.vacant (here ++ [name])) else .error .notFound
          | some (.link target) =>
            if rest = [] && !follow then .ok (.found (here ++ [name]) (.link target))
            else match links with
              | 0 => .error .linkLoop
              | links + 1 =>
                if target = "" then .error .notFound
                else
                  walkFrom root follow links (if Path.isAbsolute target then [] else here)
                    (steps target ++ rest)
          | some _ => walkFrom root follow links (here ++ [name]) rest
      | some _ => .error .notDirectory
      | none => .error .notFound := by
  rw [walkFrom]
  cases hhere : root.get? here with
  | none =>
      rw [Entry.kindAt, hhere]
      rfl
  | some e =>
      cases e with
      | file _ =>
          rw [Entry.kindAt, hhere]
          rfl
      | link _ =>
          rw [Entry.kindAt, hhere]
          rfl
      | dir children =>
          rw [kindAt_of_dir hhere, Entry.kindAt, hhere]
          dsimp only [Option.map_some, Entry.kind]
          rcases Entries.find? name children with _ | _ | _ | _ <;> rfl

section Step

variable {follow : Bool} {links : Nat} {here : Location} {name : String} {rest : List String}

theorem walkFrom_dot (h : root.kindAt here = some .dir) :
    walkFrom root follow links here ("." :: rest) = walkFrom root follow links here rest := by
  rw [walkFrom_cons, h]
  exact if_pos rfl

theorem walkFrom_up (h : root.kindAt here = some .dir) :
    walkFrom root follow links here (".." :: rest) =
      walkFrom root follow links here.dropLast rest := by
  rw [walkFrom_cons, h]
  exact (if_neg (by decide)).trans (if_pos rfl)

variable (h : root.kindAt here = some .dir) (hdot : name ≠ ".") (hup : name ≠ "..")
  (hlong : ¬ maxName < Utf8.sizeOf name)

include h hdot hup hlong

/-- A name leads to what it names in a directory, if that is no link. -/
theorem walkFrom_down {kind : Entry.Kind} (hkind : root.kindAt (here ++ [name]) = some kind)
    (hplain : ∀ target, kind ≠ .link target) :
    walkFrom root follow links here (name :: rest) =
      walkFrom root follow links (here ++ [name]) rest := by
  rw [walkFrom_cons, h]
  dsimp only
  rw [if_neg hdot, if_neg hup, if_neg hlong, hkind]
  cases kind with
  | file => rfl
  | dir => rfl
  | link target => exact absurd rfl (hplain target)

/-- A link leads on to where its target leads. -/
theorem walkFrom_link {target : String}
    (hkind : root.kindAt (here ++ [name]) = some (.link target))
    (hfollow : ¬ (rest = [] && !follow) = true) (htarget : target ≠ "") :
    walkFrom root follow (links + 1) here (name :: rest) =
      walkFrom root follow links (if Path.isAbsolute target then [] else here)
        (steps target ++ rest) := by
  rw [walkFrom_cons, h]
  dsimp only
  rw [if_neg hdot, if_neg hup, if_neg hlong, hkind]
  dsimp only
  rw [if_neg hfollow, if_neg htarget]

end Step

/-- What is found is there. -/
theorem get?_of_walkFrom {follow : Bool} {links : Nat} {here location : Location}
    {todo : List String} {e : Entry}
    (h : walkFrom root follow links here todo = .ok (.found location e)) :
    root.get? location = some e := by
  fun_induction walkFrom root follow links here todo with
  | case1 links here there hthere =>
      cases h
      exact hthere
  | case8 links here name rest children hdir hdot hup hlong target htarget hlast =>
      cases h
      rw [Entry.get?_concat, hdir]
      exact htarget
  -- Elsewhere the path ends in an error, or goes on.
  | _ => simp_all

/-- A path that leads anywhere is a path in any tree, and its steps are the same there. -/
theorem walk_eq_ok_iff {cwd : Location} {follow : Bool} {path : String} {place : Place} :
    walk root cwd follow path = .ok place ↔
      (¬ path.toList.contains '\x00' = true ∧ path ≠ "" ∧ ¬ maxPath ≤ Utf8.sizeOf path) ∧
      walkFrom root follow maxLinks (if Path.isAbsolute path then [] else cwd) (steps path) =
        .ok place := by
  rw [walk]
  split
  · next hzero => exact iff_of_false nofun fun h => h.1.1 hzero
  · next hzero =>
      split
      · next hempty => exact iff_of_false nofun fun h => h.1.2.1 hempty
      · next hempty =>
          split
          · next hlong => exact iff_of_false nofun fun h => h.1.2.2 hlong
          · next hlong => exact (and_iff_right ⟨hzero, hempty, hlong⟩).symm

theorem find_eq_ok_iff {cwd : Location} {path : String} {location : Location} {e : Entry} :
    find root cwd path = .ok (location, e) ↔ walk root cwd true path = .ok (.found location e) := by
  rw [find]
  split <;> simp_all

theorem get?_of_find {cwd : Location} {path : String} {location : Location} {e : Entry}
    (h : find root cwd path = .ok (location, e)) : root.get? location = some e :=
  get?_of_walkFrom (walk_eq_ok_iff.mp (find_eq_ok_iff.mp h)).2

/-- An absolute path of one name leads to the entry of that name at the root. -/
theorem find_child {children : List (String × Entry)} {child : Entry} {path name : String}
    (hpath : ¬ path.toList.contains '\x00' = true ∧ path ≠ "" ∧ ¬ maxPath ≤ Utf8.sizeOf path)
    (habsolute : Path.isAbsolute path = true) (hsteps : steps path = [name])
    (hname : name ≠ "." ∧ name ≠ ".." ∧ ¬ maxName < Utf8.sizeOf name)
    (hchild : Entries.find? name children = some child)
    (hplain : (child.isFile || child.isDir) = true) (cwd : Location) :
    find (.dir children) cwd path = .ok ([name], child) := by
  have hroot : (Entry.dir children).get? [] = some (.dir children) := rfl
  have hthere : (Entry.dir children).get? [name] = some child := by
    rw [Entry.get?, Entry.children, hchild]
    rfl
  have hend : walkFrom (.dir children) true maxLinks [name] [] = .ok (.found [name] child) := by
    rw [walkFrom, hthere]
  rw [find_eq_ok_iff, walk_eq_ok_iff, if_pos habsolute, hsteps]
  refine ⟨hpath, ?_⟩
  have hnolink : ∀ target, child ≠ .link target := by
    rintro target rfl
    cases hplain
  rw [walkFrom_down (kindAt_of_get? hroot) hname.1 hname.2.1 hname.2.2
    (kindAt_of_find? hroot hchild) (kind_ne_link hnolink)]
  exact hend

/-! ## Trees that grow -/

/-- Without steps to take, a path leads to where it begins. -/
theorem walkFrom_nil {here : Location} {kind : Entry.Kind} (h : root.kindAt here = some kind)
    (follow : Bool) (links : Nat) :
    ∃ e, walkFrom root follow links here [] = .ok (.found here e) := by
  obtain ⟨e, he, -⟩ := Option.map_eq_some_iff.mp h
  exact ⟨e, by rw [walkFrom, he]⟩

/-- **Where a path leads in a tree that has grown**: to where it led. What is found there may be
new, if it is a file or a directory. -/
theorem walkFrom_grown (hgrows : root.Grows root') {follow : Bool} {links : Nat} {here : Location}
    {todo : List String} {place : Place}
    (h : walkFrom root follow links here todo = .ok place)
    (hnew : ∀ l, place = .vacant l → root'.kindAt l = some .file ∨ root'.kindAt l = some .dir) :
    ∃ e, walkFrom root' follow links here todo = .ok (.found place.location e) := by
  have hdirSeen : ∀ {l children}, root.get? l = some (.dir children) →
      root'.kindAt l = some .dir := fun hdir => hgrows (kindAt_of_get? hdir)
  fun_induction walkFrom root follow links here todo with
  | case1 links here e hhere =>
      cases h
      exact walkFrom_nil (hgrows (kindAt_of_get? hhere)) follow links
  | case3 links here rest children hdir ih =>
      rw [walkFrom_dot (hdirSeen hdir)]
      exact ih h
  | case4 links here rest children hdir hdot ih =>
      rw [walkFrom_up (hdirSeen hdir)]
      exact ih h
  | case6 links here name children hdir hdot hup hlong hfree =>
      -- What was free is a file or a directory now.
      cases h
      rcases hnew _ rfl with hkind | hkind
      · rw [walkFrom_down (hdirSeen hdir) hdot hup hlong hkind (by rintro target ⟨⟩)]
        exact walkFrom_nil hkind follow links
      · rw [walkFrom_down (hdirSeen hdir) hdot hup hlong hkind (by rintro target ⟨⟩)]
        exact walkFrom_nil hkind follow links
  | case8 links here name rest children hdir hdot hup hlong target hlink hlast =>
      cases h
      rw [walkFrom_cons, hdirSeen hdir]
      dsimp only
      rw [if_neg hdot, if_neg hup, if_neg hlong, hgrows (kindAt_of_find? hdir hlink)]
      dsimp only [Entry.kind]
      rw [if_pos hlast]
      exact ⟨_, rfl⟩
  | case11 here name rest children hdir hdot hup hlong target hlink hlast links htarget ih =>
      have hkind := hgrows (kindAt_of_find? hdir hlink)
      rw [walkFrom_link (hdirSeen hdir) hdot hup hlong hkind hlast htarget]
      exact ih h
  | case12 links here name rest children hdir hdot hup hlong e hnolink he ih =>
      have hkind := hgrows (kindAt_of_find? hdir he)
      rw [walkFrom_down (hdirSeen hdir) hdot hup hlong hkind (kind_ne_link hnolink)]
      exact ih h
  -- Elsewhere the path ends in an error.
  | _ => cases h

theorem walk_grown (hgrows : root.Grows root') {cwd : Location} {follow : Bool} {path : String}
    {place : Place} (h : walk root cwd follow path = .ok place)
    (hnew : ∀ l, place = .vacant l → root'.kindAt l = some .file ∨ root'.kindAt l = some .dir) :
    ∃ e, walk root' cwd follow path = .ok (.found place.location e) := by
  obtain ⟨hpath, hsteps⟩ := walk_eq_ok_iff.mp h
  obtain ⟨e, he⟩ := walkFrom_grown hgrows hsteps hnew
  exact ⟨e, walk_eq_ok_iff.mpr ⟨hpath, he⟩⟩

/-- **What a path leads to in a tree that has grown**: to the same location. -/
theorem find_grown (hgrows : root.Grows root') {cwd : Location} {path : String}
    {location : Location} {e : Entry} (h : find root cwd path = .ok (location, e)) :
    ∃ e', find root' cwd path = .ok (location, e') ∧ root'.get? location = some e' := by
  obtain ⟨e', hwalk⟩ := walk_grown hgrows (find_eq_ok_iff.mp h) nofun
  have hfind := find_eq_ok_iff.mpr hwalk
  exact ⟨e', hfind, get?_of_find hfind⟩

/-- **Reading back**: the path that led to a file leads to it with the content that it is given. -/
theorem find_put {cwd : Location} {path : String} {location : Location} {old : Bytes}
    (h : find root cwd path = .ok (location, .file old)) (new : Bytes) :
    find (root.put location (.file new)) cwd path = .ok (location, .file new) := by
  have hold := get?_of_find h
  have hgrows : root.Grows (root.put location (.file new)) :=
    .of_kindAt_eq (Entry.kindAt_put hold new)
  obtain ⟨e, hfind, he⟩ := find_grown hgrows h
  rw [Entry.get?_put hold] at he
  exact Option.some.inj he ▸ hfind

theorem readText_of_find {cwd : Location} {path : String} {location : Location} {content : Bytes}
    {text : List Char} (h : find root cwd path = .ok (location, .file content))
    (htext : Utf8.decode? content = some text) :
    readText root cwd path = .ok (String.ofList text) := by
  rw [readText, readBytes, h]
  dsimp only
  rw [Utf8.toString?, htext]
  rfl

/-- A file that a path leads to is written where it is. -/
theorem writeBytes_of_find {cwd : Location} {path : String} {location : Location} {old : Bytes}
    (h : find root cwd path = .ok (location, .file old)) (new : Bytes) :
    writeBytes root cwd path new = .ok (root.put location (.file new)) := by
  rw [writeBytes, find_eq_ok_iff.mp h]

end Files

end ToolAgent
