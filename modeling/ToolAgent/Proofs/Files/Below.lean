import Mathlib.Data.List.Nodup
import ToolAgent.Proofs.Files.Paths
import ToolAgent.Proofs.Files.Writing

/-!
# What lies below a directory

The names that lead from a directory to what lies below it are joined to the path of the directory
one after the other. A path leads part by part (`exists_of_walkFrom_append`), so such a path leads
below the directory that its front leads to, whatever links are on the way there (`find_join`), as
long as it leads anywhere: it can be too long. Where every directory can be opened by its path
(`Readable`), the path of each leads to that directory itself (`listDir_foldl_join`).
-/

namespace ToolAgent

open ToolAgent.Path (IsName)

/-- The names in each directory differ, and they are names that files can have. -/
def Entry.WellNamed (tree : Entry) : Prop :=
  ∀ ⦃location children⦄, tree.get? location = some (.dir children) →
    (children.map (·.1)).Nodup ∧ ∀ e ∈ children, IsName e.1

namespace Entry

theorem wellNamed_of_children {e : Entry} (h : e.children = []) (hdir : e.isDir = false) :
    e.WellNamed := by
  intro location children hchildren
  cases location with
  | nil =>
      obtain rfl := Option.some.inj hchildren
      cases hdir
  | cons name rest =>
      rw [get?, h] at hchildren
      cases hchildren

@[simp]
theorem wellNamed_file (content : Bytes) : (file content).WellNamed :=
  wellNamed_of_children rfl rfl

@[simp]
theorem wellNamed_link (target : String) : (link target).WellNamed :=
  wellNamed_of_children rfl rfl

@[simp]
theorem wellNamed_dir_iff {children : List (String × Entry)} : (dir children).WellNamed ↔
    (children.map (·.1)).Nodup ∧ ∀ e ∈ children, IsName e.1 ∧ e.2.WellNamed := by
  constructor
  · intro h
    have hroot : (dir children).get? [] = some (dir children) := rfl
    obtain ⟨hnodup, hnames⟩ := h hroot
    refine ⟨hnodup, fun e he => ⟨hnames e he, fun location inner hinner => ?_⟩⟩
    have hbelow : (dir children).get? (e.1 :: location) = e.2.get? location := by
      rw [get?, Entry.children, (Entries.find?_eq_some_iff hnodup).mpr he, Option.bind_some]
    exact h (hbelow.trans hinner)
  · rintro ⟨hnodup, hnames⟩ location inner hinner
    cases location with
    | nil =>
        obtain rfl := Entry.dir.inj (Option.some.inj hinner)
        exact ⟨hnodup, fun e he => (hnames e he).1⟩
    | cons name rest =>
        obtain ⟨child, hchild, hinner⟩ := Option.bind_eq_some_iff.mp hinner
        exact (hnames _ (Entries.mem_of_find? hchild)).2 hinner

end Entry

namespace Entry.WellNamed

variable {dir : Entry} {place : Location} {children : List (String × Entry)}

theorem get?_concat_iff (h : dir.WellNamed) (hplace : dir.get? place = some (.dir children))
    {name : String} {child : Entry} :
    dir.get? (place ++ [name]) = some child ↔ (name, child) ∈ children := by
  rw [Entry.get?_concat, hplace]
  exact Entries.find?_eq_some_iff (h hplace).1

/-- What is at a place stands in a directory. -/
theorem exists_dir_of_get?_concat {name : String} {child : Entry}
    (h : dir.get? (place ++ [name]) = some child) :
    ∃ children, dir.get? place = some (.dir children) ∧ (name, child) ∈ children := by
  rw [Entry.get?_concat] at h
  obtain ⟨e, he, hchild⟩ := Option.bind_eq_some_iff.mp h
  obtain ⟨children, rfl⟩ := Entry.eq_dir_of_find? hchild
  exact ⟨children, he, Entries.mem_of_find? hchild⟩

theorem isName_of_mem (h : dir.WellNamed) {e : Entry} (hplace : dir.get? place = some e) :
    ∀ name ∈ place, IsName name := by
  induction place using List.reverseRecOn generalizing e with
  | nil => simp
  | append_singleton front last ih =>
      obtain ⟨children, hfront, hmem⟩ := exists_dir_of_get?_concat hplace
      refine List.forall_mem_append.mpr ⟨ih hfront, List.forall_mem_singleton.mpr ?_⟩
      exact (h hfront).2 _ hmem

end Entry.WellNamed

namespace Files

variable {root : Entry} {cwd here location : Location} {links : Nat} {todo more : List String}
  {path name : String} {children inner : List (String × Entry)}

/-! ## Following a path part by part -/

/-- **Where a path of several parts leads**: the parts before the last one lead to a directory, and
from there the last one leads on. -/
theorem exists_of_walkFrom_append {place : Place} (hmore : more ≠ [])
    (h : walkFrom root true links here (todo ++ more) = .ok place) :
    ∃ left middle children,
      walkFrom root true links here todo = .ok (.found middle (.dir children)) ∧
      walkFrom root true left middle more = .ok place := by
  obtain ⟨first, others, rfl⟩ := List.exists_cons_of_ne_nil hmore
  fun_induction walkFrom root true links here todo with
  | case1 links here e hhere =>
      -- Something is still to be done here, which takes a directory.
      rw [List.nil_append] at h
      have hdir := h
      rw [walkFrom, hhere] at hdir
      cases e with
      | dir children => exact ⟨links, here, children, rfl, h⟩
      | file _ => cases hdir
      | link _ => cases hdir
  | case3 links here rest children hdir ih =>
      rw [List.cons_append, walkFrom_dot (kindAt_of_get? hdir)] at h
      exact ih h
  | case4 links here rest children hdir hdot ih =>
      rw [List.cons_append, walkFrom_up (kindAt_of_get? hdir)] at h
      exact ih h
  | case11 here name rest children hdir hdot hup hlong target hlink hlast links htarget ih =>
      rw [List.cons_append, walkFrom_link (kindAt_of_get? hdir) hdot hup hlong
        (kindAt_of_find? hdir hlink) (by simp) htarget, ← List.append_assoc] at h
      exact ih h
  | case12 links here name rest children hdir hdot hup hlong e hnolink he ih =>
      rw [List.cons_append, walkFrom_down (kindAt_of_get? hdir) hdot hup hlong
        (kindAt_of_find? hdir he) (kind_ne_link hnolink)] at h
      exact ih h
  -- Elsewhere the first part ends in an error, and so does the whole.
  | _ => simp_all [walkFrom, Nat.not_lt_of_le]

/-- A path is followed name by name; at its end it may ask for a directory. -/
theorem steps_eq (path : String) :
    steps path = Path.names path ∨ steps path = Path.names path ++ ["."] := by
  rw [steps, Path.names]
  split
  · split
    · exact .inr rfl
    · exact .inl rfl
  · exact .inl rfl

theorem steps_join (h : IsName name) (hpath : path ≠ "") :
    steps (Path.join path name) = Path.names path ++ [name] := by
  obtain ⟨front, hpieces, hnames⟩ := Path.exists_pieces_join h hpath
  have hname := Path.isEmptyPiece_of_isName h
  rw [steps, hpieces, List.getLast?_concat]
  dsimp only
  rw [hname, ← hnames, Path.names, List.filter_append]
  simp [hname]

/-- A path that leads to a directory leads there also without what asks for one. -/
theorem walkFrom_names
    (h : walkFrom root true links here (steps path) = .ok (.found location (.dir children))) :
    walkFrom root true links here (Path.names path) = .ok (.found location (.dir children)) := by
  rcases steps_eq path with hsteps | hsteps
  · rw [hsteps] at h
    exact h
  · rw [hsteps] at h
    obtain ⟨left, middle, there, hnames, hlast⟩ := exists_of_walkFrom_append (by simp) h
    have hthere := get?_of_walkFrom hnames
    rw [walkFrom_dot (kindAt_of_get? hthere), walkFrom, hthere] at hlast
    cases hlast
    exact hnames

/-! ## Going down -/

/-- **The path of a directory in a directory** leads to it, if it leads anywhere. -/
theorem find_join (hname : IsName name) (hdir : find root cwd path = .ok (location, .dir children))
    (hchild : Entries.find? name children = some (.dir inner)) {there : Location × Entry}
    (hleads : find root cwd (Path.join path name) = .ok there) :
    there = (location ++ [name], .dir inner) := by
  obtain ⟨last, e⟩ := there
  obtain ⟨⟨-, hpath, -⟩, hfirst⟩ := walk_eq_ok_iff.mp (find_eq_ok_iff.mp hdir)
  obtain ⟨-, hsteps⟩ := walk_eq_ok_iff.mp (find_eq_ok_iff.mp hleads)
  rw [Path.isAbsolute_join hname hpath, steps_join hname hpath] at hsteps
  obtain ⟨left, middle, entries, hmiddle, hlast⟩ := exists_of_walkFrom_append (by simp) hsteps
  -- The names before the last one lead where the path leads.
  have hsame := (walkFrom_names hfirst).symm.trans hmiddle
  cases hsame
  have hthere := get?_of_walkFrom hmiddle
  have hbelow : root.get? (location ++ [name]) = some (.dir inner) := by
    rw [Entry.get?_concat, hthere]
    exact hchild
  by_cases hlong : maxName < Utf8.sizeOf name
  · rw [walkFrom, hthere] at hlast
    dsimp only at hlast
    rw [if_neg hname.2.2.1, if_neg hname.2.2.2, if_pos hlong] at hlast
    cases hlast
  · have hkind := kindAt_of_get? hbelow
    rw [walkFrom_down (kindAt_of_get? hthere) hname.2.2.1 hname.2.2.2 hlong hkind
      (by rintro target ⟨⟩), walkFrom, hbelow] at hlast
    cases hlast
    rfl

/-- Every directory that lies at most `depth` levels below the directory at `path` can be opened by
the path that leads there. -/
def Readable (root : Entry) (cwd : Location) (path : String) (dir : Entry) (depth : Nat) : Prop :=
  ∀ ⦃place children⦄, place.length ≤ depth → dir.get? place = some (.dir children) →
    ∃ entries, listDir root cwd (place.foldl Path.join path) = .ok entries

theorem listDir_eq_ok_iff :
    listDir root cwd path = .ok children ↔
      ∃ location, find root cwd path = .ok (location, .dir children) := by
  rw [listDir]
  split <;> simp_all

/-- **The path of a directory below a readable one** leads to that directory. -/
theorem find_foldl_join {depth : Nat} (hnames : (Entry.dir children).WellNamed)
    (hdir : find root cwd path = .ok (location, .dir children))
    (hread : Readable root cwd path (.dir children) depth) {place : Location}
    (hdepth : place.length ≤ depth)
    (hplace : (Entry.dir children).get? place = some (.dir inner)) :
    find root cwd (place.foldl Path.join path) = .ok (location ++ place, .dir inner) := by
  induction place using List.reverseRecOn generalizing inner with
  | nil =>
      cases hplace
      rw [List.append_nil]
      exact hdir
  | append_singleton front name ih =>
      obtain ⟨siblings, hfront, hmem⟩ := Entry.WellNamed.exists_dir_of_get?_concat hplace
      obtain ⟨hnodup, hsiblings⟩ := hnames hfront
      obtain ⟨entries, hopen⟩ := hread hdepth hplace
      obtain ⟨there, hleads⟩ := listDir_eq_ok_iff.mp hopen
      rw [List.length_append, List.length_singleton] at hdepth
      have hparent := ih (Nat.le_of_succ_le hdepth) hfront
      have hchild := (Entries.find?_eq_some_iff hnodup).mpr hmem
      rw [List.foldl_append] at hleads ⊢
      have heq := find_join (hsiblings _ hmem) hparent hchild hleads
      rw [heq, List.append_assoc] at hleads
      exact hleads

theorem listDir_foldl_join {depth : Nat} (hnames : (Entry.dir children).WellNamed)
    (hdir : find root cwd path = .ok (location, .dir children))
    (hread : Readable root cwd path (.dir children) depth) {place : Location}
    (hdepth : place.length ≤ depth)
    (hplace : (Entry.dir children).get? place = some (.dir inner)) :
    listDir root cwd (place.foldl Path.join path) = .ok inner :=
  listDir_eq_ok_iff.mpr ⟨_, find_foldl_join hnames hdir hread hdepth hplace⟩

end Files

end ToolAgent
