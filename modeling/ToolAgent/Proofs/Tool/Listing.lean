import ToolAgent.Proofs.Files.Below
import ToolAgent.Tool.FileRead

/-!
# Listing a directory

A listing goes down level by level: the folders of a level are those in the folders of the level
before, as a link leads to no folder. Each is opened by its path, and if it can be opened then the
path leads to that directory (`openFolder_eq`). So the folders that are listed are all directories
down to the depth, each once (`foldersFrom`), and the listing has the entries of each of them, in
order of their lines (`listing_eq`). `run_directory` says what that comes to for the entries.
-/

namespace ToolAgent

open ToolAgent.Path (IsName)

namespace FileRead

/-! ## Lines -/

/-- The line for the entry at a place below a directory that is listed under this path: marked with
`d` if the entry is a directory, and with a dash if not. -/
def lineAt (path : String) (dir : Entry) (place : Location) : String :=
  (if (dir.get? place).any Entry.isDir then "d " else "- ") ++ place.foldl Path.join path

variable {path : String} {dir : Entry}

/-- **Different entries have different lines.** -/
theorem lineAt_inj (h : dir.WellNamed) {place place' : Location} (hne : place ≠ [])
    (hne' : place' ≠ []) (hthere : (dir.get? place).isSome) (hthere' : (dir.get? place').isSome)
    (heq : lineAt path dir place = lineAt path dir place') : place = place' := by
  obtain ⟨e, he⟩ := Option.isSome_iff_exists.mp hthere
  obtain ⟨e', he'⟩ := Option.isSome_iff_exists.mp hthere'
  have hmark : ∀ (b : Bool) (text : String), ((if b then "d " else "- ") ++ text).toList.drop 2 =
      text.toList := by
    intro b text
    rw [String.toList_append]
    cases b <;> rfl
  have htext := congrArg (fun line => line.toList.drop 2) heq
  rw [lineAt, lineAt, hmark, hmark] at htext
  exact Path.foldl_join_inj hne hne' (h.isName_of_mem he) (h.isName_of_mem he')
    (String.toList_inj.mp htext)

/-! ## Folders -/

/-- The folder at a place. -/
def folderAt (path : String) (dir : Entry) (place : Location) : Folder :=
  ⟨place.foldl Path.join path, ((dir.get? place).map Entry.children).getD []⟩

/-- The places of the entries of a folder, in order of their lines. -/
def entriesAt (path : String) (dir : Entry) (place : Location) : List Location :=
  ((folderAt path dir place).entries.map fun e => place ++ [e.1]).mergeSort
    fun a b => decide (lineAt path dir a ≤ lineAt path dir b)

/-- The places of the directories in a folder. -/
def foldersAt (dir : Entry) (place : Location) : List Location :=
  ((folderAt "" dir place).entries.filter (·.2.isDir)).map fun e => place ++ [e.1]

variable {place : Location} {children : List (String × Entry)}

theorem entries_folderAt (hplace : dir.get? place = some (.dir children)) (path : String) :
    (folderAt path dir place).entries = children := by
  rw [folderAt, hplace]
  rfl

/-- The lines of a folder are those of its entries. -/
theorem lines_folderAt (h : dir.WellNamed) (hplace : dir.get? place = some (.dir children)) :
    (folderAt path dir place).lines = (entriesAt path dir place).map (lineAt path dir) := by
  have hline : ∀ e ∈ children,
      lineAt path dir (place ++ [e.1]) = (folderAt path dir place).lineOf e := by
    intro e he
    have hchild : dir.get? (place ++ [e.1]) = some e.2 := (h.get?_concat_iff hplace).mpr he
    rw [lineAt, hchild, List.foldl_append]
    rfl
  have hlines : (folderAt path dir place).entries.map (folderAt path dir place).lineOf =
      ((folderAt path dir place).entries.map fun e => place ++ [e.1]).map (lineAt path dir) := by
    rw [List.map_map, entries_folderAt hplace]
    exact List.map_congr_left fun e he => (hline e he).symm
  rw [entriesAt, Folder.lines, hlines]
  exact (List.map_mergeSort (f := lineAt path dir) fun _ _ _ _ => rfl).symm

/-- The folders in a folder have the paths that lead to its directories. -/
theorem subfolders_folderAt (path : String) (dir : Entry) (place : Location) :
    (folderAt path dir place).subfolders =
      (foldersAt dir place).map fun p => p.foldl Path.join path := by
  have hjoin : ∀ name, Path.join (place.foldl Path.join path) name =
      (place ++ [name]).foldl Path.join path := by
    intro name
    rw [List.foldl_append]
    rfl
  rw [Folder.subfolders, foldersAt, List.map_map]
  exact List.map_congr_left fun e _ => hjoin e.1

/-- **A directory that is opened by its path** is the one at that place. -/
theorem openFolder_eq {tree : Entry} {cwd location : Location} {top : List (String × Entry)}
    {depth : Nat} (hnames : (Entry.dir top).WellNamed)
    (hdir : Files.find tree cwd path = .ok (location, .dir top))
    (hread : Files.Readable tree cwd path (.dir top) depth) (hdepth : place.length ≤ depth)
    (hplace : (Entry.dir top).get? place = some (.dir children)) :
    openFolder tree cwd (place.foldl Path.join path) = .ok (folderAt path (.dir top) place) := by
  rw [openFolder, Files.listDir_foldl_join hnames hdir hread hdepth hplace, folderAt, hplace]
  rfl

theorem mem_entriesAt (hplace : dir.get? place = some (.dir children)) {p : Location} :
    p ∈ entriesAt path dir place ↔ ∃ e ∈ children, p = place ++ [e.1] := by
  rw [entriesAt, List.mem_mergeSort, List.mem_map, entries_folderAt hplace]
  simp only [eq_comm]

/-- The entries of a folder, each once. -/
theorem nodup_entriesAt (h : dir.WellNamed) (hplace : dir.get? place = some (.dir children)) :
    (entriesAt path dir place).Nodup := by
  rw [entriesAt, (List.mergeSort_perm _ _).nodup_iff, entries_folderAt hplace]
  refine List.pairwise_map.mpr ((List.pairwise_map.mp (h hplace).1).imp fun hne heq => hne ?_)
  simpa using heq

/-- The entries of a folder are in ascending order of their lines. -/
theorem pairwise_entriesAt (path : String) (dir : Entry) (place : Location) :
    (entriesAt path dir place).Pairwise fun a b => lineAt path dir a ≤ lineAt path dir b :=
  pairwise_mergeSort_by (lineAt path dir) _

/-! ## Levels -/

/-- All directories so many levels below a directory, each once. -/
structure IsLevel (dir : Entry) (n : Nat) (level : List Location) : Prop where
  nodup : level.Nodup
  mem_iff : ∀ place, place ∈ level ↔
    place.length = n ∧ ∃ children, dir.get? place = some (.dir children)

theorem mem_foldersAt (h : dir.WellNamed) (hplace : dir.get? place = some (.dir children))
    {p : Location} : p ∈ foldersAt dir place ↔
      p ≠ [] ∧ p.dropLast = place ∧ ∃ inner, dir.get? p = some (.dir inner) := by
  rw [foldersAt, List.mem_map, entries_folderAt hplace]
  constructor
  · rintro ⟨⟨name, child⟩, hmem, rfl⟩
    obtain ⟨hmem, hdir⟩ := List.mem_filter.mp hmem
    cases child with
    | file _ => cases hdir
    | link _ => cases hdir
    | dir inner => exact ⟨by simp, List.dropLast_concat, inner, (h.get?_concat_iff hplace).mpr hmem⟩
  · rintro ⟨hne, hparent, inner, hinner⟩
    obtain ⟨front, name, rfl⟩ := (List.eq_nil_or_concat' p).resolve_left hne
    rw [List.dropLast_concat] at hparent
    subst hparent
    exact ⟨(name, .dir inner), List.mem_filter.mpr ⟨(h.get?_concat_iff hplace).mp hinner, rfl⟩, rfl⟩

theorem nodup_foldersAt (h : dir.WellNamed) (hplace : dir.get? place = some (.dir children)) :
    (foldersAt dir place).Nodup := by
  rw [foldersAt, entries_folderAt hplace]
  have hnames := (List.pairwise_map.mp (h hplace).1).filter (·.2.isDir)
  refine List.pairwise_map.mpr (hnames.imp fun hne heq => hne ?_)
  simpa using heq

/-- The level below a level. -/
theorem IsLevel.next (h : dir.WellNamed) {n : Nat} {level : List Location}
    (hlevel : IsLevel dir n level) : IsLevel dir (n + 1) (level.flatMap (foldersAt dir)) := by
  have hdir : ∀ place ∈ level, ∃ children, dir.get? place = some (.dir children) :=
    fun place hplace => ((hlevel.mem_iff place).mp hplace).2
  constructor
  · refine List.nodup_flatMap.mpr ⟨fun place hplace => ?_, hlevel.nodup.imp_of_mem ?_⟩
    · obtain ⟨children, hchildren⟩ := hdir place hplace
      exact nodup_foldersAt h hchildren
    · -- A place stands in one folder only.
      intro place place' hplace hplace' hne p hp hp'
      obtain ⟨children, hchildren⟩ := hdir place hplace
      obtain ⟨children', hchildren'⟩ := hdir place' hplace'
      exact hne (((mem_foldersAt h hchildren).mp hp).2.1.symm.trans
        ((mem_foldersAt h hchildren').mp hp').2.1)
  · intro p
    rw [List.mem_flatMap]
    constructor
    · rintro ⟨place, hplace, hp⟩
      obtain ⟨hlength, children, hchildren⟩ := (hlevel.mem_iff place).mp hplace
      obtain ⟨hne, hparent, hinner⟩ := (mem_foldersAt h hchildren).mp hp
      have hpos := List.length_pos_iff.mpr hne
      rw [← hparent, List.length_dropLast] at hlength
      exact ⟨by omega, hinner⟩
    · rintro ⟨hlength, inner, hinner⟩
      obtain ⟨front, name, rfl⟩ :=
        (List.eq_nil_or_concat' p).resolve_left (List.ne_nil_of_length_eq_add_one hlength)
      obtain ⟨children, hfront, -⟩ := Entry.WellNamed.exists_dir_of_get?_concat hinner
      refine ⟨front, (hlevel.mem_iff front).mpr ⟨by simpa using hlength, children, hfront⟩, ?_⟩
      exact (mem_foldersAt h hfront).mpr ⟨by simp, List.dropLast_concat, inner, hinner⟩

/-- The lines of a level are those of the entries in its folders. -/
theorem flatMap_lines (h : dir.WellNamed) {n : Nat} {level : List Location}
    (hlevel : IsLevel dir n level) :
    (level.map (folderAt path dir)).flatMap Folder.lines =
      (level.flatMap (entriesAt path dir)).map (lineAt path dir) := by
  rw [List.flatMap_map, List.map_flatMap]
  refine List.flatMap_congr fun place hplace => ?_
  obtain ⟨-, children, hchildren⟩ := (hlevel.mem_iff place).mp hplace
  exact lines_folderAt h hchildren

/-- The directories of a level, and those below them down to `depth` more levels. -/
def foldersFrom (dir : Entry) : (depth : Nat) → List Location → List Location
  | 0, level => level
  | depth + 1, level => level ++ foldersFrom dir depth (level.flatMap (foldersAt dir))

section Listing

variable {tree : Entry} {cwd location : Location} {top : List (String × Entry)} {last : Nat}

theorem listing_nil (tree : Entry) (cwd : Location) (depth : Nat) :
    listing tree cwd depth [] = .ok [] := by
  cases depth <;> rfl

/-- A level without folders adds nothing, so the listing may as well go on to it. -/
theorem listing_succ (tree : Entry) (cwd : Location) (depth : Nat) (level : List String) :
    listing tree cwd (depth + 1) level = do
      let folders ← level.mapM (openFolder tree cwd)
      let below ← listing tree cwd depth (folders.flatMap Folder.subfolders)
      return folders.flatMap Folder.lines ++ below := by
  rw [listing]
  refine congrArg _ (funext fun folders => ?_)
  dsimp only
  split
  · next hempty =>
      rw [List.isEmpty_iff.mp hempty, listing_nil]
      rfl
  · rfl

variable (hnames : (Entry.dir top).WellNamed)
  (hdir : Files.find tree cwd path = .ok (location, .dir top))
  (hread : Files.Readable tree cwd path (.dir top) last)

include hnames hdir hread

/-- The folders of a level can all be opened. -/
theorem mapM_openFolder {n : Nat} {level : List Location} (hlevel : IsLevel (.dir top) n level)
    (hn : n ≤ last) :
    (level.map fun place => place.foldl Path.join path).mapM (openFolder tree cwd) =
      .ok (level.map (folderAt path (.dir top))) := by
  have hopen : ∀ place ∈ level, openFolder tree cwd (place.foldl Path.join path) =
      .ok (folderAt path (.dir top) place) := by
    intro place hplace
    obtain ⟨rfl, children, hchildren⟩ := (hlevel.mem_iff place).mp hplace
    exact openFolder_eq hnames hdir hread hn hchildren
  rw [List.mapM_map]
  clear hlevel
  induction level with
  | nil => rfl
  | cons place rest ih =>
      obtain ⟨hfirst, hrest⟩ := List.forall_mem_cons.mp hopen
      rw [List.mapM_cons, Function.comp_apply, hfirst, ih hrest]
      rfl

/-- **A listing has the entries of one folder after the other.** -/
theorem listing_eq {n depth : Nat} {level : List Location} (hlevel : IsLevel (.dir top) n level)
    (hdepth : n + depth ≤ last) :
    listing tree cwd depth (level.map fun place => place.foldl Path.join path) =
      .ok (((foldersFrom (.dir top) depth level).flatMap (entriesAt path (.dir top))).map
        (lineAt path (.dir top))) := by
  induction depth generalizing n level with
  | zero =>
      rw [listing, mapM_openFolder hnames hdir hread hlevel hdepth]
      exact congrArg Except.ok (flatMap_lines hnames hlevel)
  | succ depth ih =>
      have hnext : (level.map (folderAt path (.dir top))).flatMap Folder.subfolders =
          (level.flatMap (foldersAt (.dir top))).map fun place => place.foldl Path.join path := by
        rw [List.flatMap_map, List.map_flatMap]
        exact List.flatMap_congr fun place _ => subfolders_folderAt path (.dir top) place
      have hrest := ih (hlevel.next hnames) (by omega)
      rw [listing_succ, mapM_openFolder hnames hdir hread hlevel (by omega)]
      simp only [bind, Except.bind]
      rw [hnext, hrest, foldersFrom, List.flatMap_append, List.map_append,
        flatMap_lines hnames hlevel]
      rfl

end Listing

/-- All directories from one level down to another, each once, level by level. -/
structure Spans (dir : Entry) (first last : Nat) (folders : List Location) : Prop where
  nodup : folders.Nodup
  mem_iff : ∀ place, place ∈ folders ↔ first ≤ place.length ∧ place.length ≤ last ∧
    ∃ children, dir.get? place = some (.dir children)
  levels : folders.Pairwise fun a b => a.length ≤ b.length

theorem spans_foldersFrom (h : dir.WellNamed) {n : Nat} {level : List Location}
    (hlevel : IsLevel dir n level) (depth : Nat) :
    Spans dir n (n + depth) (foldersFrom dir depth level) := by
  have hpairwise : ∀ {n level}, IsLevel dir n level →
      level.Pairwise fun a b => a.length ≤ b.length := by
    intro n level hlevel
    refine hlevel.nodup.imp_of_mem fun ha hb _ => ?_
    rw [((hlevel.mem_iff _).mp ha).1, ((hlevel.mem_iff _).mp hb).1]
  induction depth generalizing n level with
  | zero =>
      refine ⟨hlevel.nodup, fun place => ?_, hpairwise hlevel⟩
      rw [foldersFrom, hlevel.mem_iff, ← and_assoc]
      exact and_congr_left fun _ => by omega
  | succ depth ih =>
      obtain ⟨hnodup, hmem, hlevels⟩ := ih (hlevel.next h)
      refine ⟨?_, fun place => ?_, ?_⟩
      · refine List.nodup_append'.mpr ⟨hlevel.nodup, hnodup, fun place hplace hrest => ?_⟩
        have hlength := ((hlevel.mem_iff place).mp hplace).1
        have hdeeper := ((hmem place).mp hrest).1
        omega
      · rw [foldersFrom, List.mem_append, hlevel.mem_iff, hmem]
        constructor
        · rintro (⟨hlength, hdir⟩ | ⟨hfirst, hlast, hdir⟩)
          · exact ⟨by omega, by omega, hdir⟩
          · exact ⟨by omega, by omega, hdir⟩
        · rintro ⟨hfirst, hlast, hdir⟩
          by_cases hlength : place.length = n
          · exact .inl ⟨hlength, hdir⟩
          · exact .inr ⟨by omega, by omega, hdir⟩
      · refine List.pairwise_append.mpr ⟨hpairwise hlevel, hlevels, fun a ha b hb => ?_⟩
        have hlength := ((hlevel.mem_iff a).mp ha).1
        have hdeeper := ((hmem b).mp hb).1
        omega

namespace Spans

variable {folders : List Location} {first last : Nat}

theorem exists_dir (h : Spans dir first last folders) (hplace : place ∈ folders) :
    ∃ children, dir.get? place = some (.dir children) :=
  ((h.mem_iff place).mp hplace).2.2

/-- The entries of a folder stand in that folder. -/
theorem parent_eq (h : Spans dir first last folders) (hplace : place ∈ folders) {p : Location}
    (hp : p ∈ entriesAt path dir place) : p ≠ [] ∧ p.dropLast = place := by
  obtain ⟨children, hchildren⟩ := h.exists_dir hplace
  obtain ⟨e, -, rfl⟩ := (mem_entriesAt hchildren).mp hp
  exact ⟨by simp, List.dropLast_concat⟩

theorem nodup_entries (h : Spans dir first last folders) (hdir : dir.WellNamed) :
    (folders.flatMap (entriesAt path dir)).Nodup := by
  refine List.nodup_flatMap.mpr ⟨fun place hplace => ?_, h.nodup.imp_of_mem ?_⟩
  · obtain ⟨children, hchildren⟩ := h.exists_dir hplace
    exact nodup_entriesAt hdir hchildren
  · intro place place' hplace hplace' hne p hp hp'
    exact hne ((h.parent_eq hplace hp).2.symm.trans (h.parent_eq hplace' hp').2)

/-- The entries of the directories down to a depth are all that lies below the first of them. -/
theorem mem_entries_iff (h : Spans dir 0 last folders) (hdir : dir.WellNamed) {p : Location} :
    p ∈ folders.flatMap (entriesAt path dir) ↔
      p ≠ [] ∧ p.length ≤ last + 1 ∧ (dir.get? p).isSome := by
  rw [List.mem_flatMap]
  constructor
  · rintro ⟨place, hplace, hp⟩
    obtain ⟨-, hdepth, children, hchildren⟩ := (h.mem_iff place).mp hplace
    obtain ⟨e, he, rfl⟩ := (mem_entriesAt hchildren).mp hp
    refine ⟨by simp, by simpa using hdepth, ?_⟩
    rw [(hdir.get?_concat_iff hchildren).mpr he]
    rfl
  · rintro ⟨hne, hlength, hthere⟩
    obtain ⟨place, name, rfl⟩ := (List.eq_nil_or_concat' p).resolve_left hne
    obtain ⟨e, he⟩ := Option.isSome_iff_exists.mp hthere
    obtain ⟨children, hchildren, hin⟩ := Entry.WellNamed.exists_dir_of_get?_concat he
    have hplace := (h.mem_iff place).mpr
      ⟨Nat.zero_le _, by simpa using hlength, children, hchildren⟩
    exact ⟨place, hplace, (mem_entriesAt hchildren).mpr ⟨_, hin, rfl⟩⟩

/-- What is less deep comes first. -/
theorem entries_levels (h : Spans dir first last folders) :
    (folders.flatMap (entriesAt path dir)).Pairwise fun a b => a.length ≤ b.length := by
  have hlength : ∀ place ∈ folders, ∀ p ∈ entriesAt path dir place,
      p.length = place.length + 1 := by
    intro place hplace p hp
    obtain ⟨hne, rfl⟩ := h.parent_eq hplace hp
    rw [List.length_dropLast, Nat.sub_add_cancel (List.length_pos_iff.mpr hne)]
  refine List.pairwise_flatMap.mpr ⟨fun place hplace => ?_, h.levels.imp_of_mem ?_⟩
  · refine List.pairwise_of_forall_mem_list fun a ha b hb => ?_
    rw [hlength place hplace a ha, hlength place hplace b hb]
  · intro place place' hplace hplace' hle a ha b hb
    rw [hlength place hplace a ha, hlength place' hplace' b hb]
    exact Nat.succ_le_succ hle

/-- The entries of a folder stand together, and those of the other folders before and after. -/
theorem entries_together (h : Spans dir first last folders) (path : String)
    (folder : Location) :
    ∃ before block after,
      folders.flatMap (entriesAt path dir) = before ++ (block ++ after) ∧
      (folder ∈ folders ∧ block = entriesAt path dir folder ∨ block = []) ∧
      ∀ p ∈ before ++ after, p.dropLast ≠ folder := by
  by_cases hfolder : folder ∈ folders
  · obtain ⟨front, back, rfl⟩ := List.append_of_mem hfolder
    refine ⟨front.flatMap (entriesAt path dir), _, back.flatMap (entriesAt path dir), ?_,
      .inl ⟨hfolder, rfl⟩, fun p hp => ?_⟩
    · rw [List.flatMap_append, List.flatMap_cons]
    · rw [← List.flatMap_append, List.mem_flatMap] at hp
      obtain ⟨other, hother, hp⟩ := hp
      have hin : other ∈ front ++ folder :: back := by
        simp only [List.mem_append, List.mem_cons] at hother ⊢
        tauto
      rw [(h.parent_eq hin hp).2]
      rintro rfl
      exact (List.nodup_middle.mp h.nodup).notMem hother
  · refine ⟨folders.flatMap (entriesAt path dir), [], [], by simp, .inr rfl, ?_⟩
    rintro p hp rfl
    rw [List.append_nil, List.mem_flatMap] at hp
    obtain ⟨other, hother, hp⟩ := hp
    exact hfolder ((h.parent_eq hother hp).2 ▸ hother)

end Spans

/-! ## The call -/

/-- **A complete listing** of what lies at most `depth` directories below a directory: each entry
once and nothing else, on lines that all differ; what is less deep comes first; and the entries of
each folder stand together, in ascending order of their lines. -/
structure Lists (path : String) (dir : Entry) (depth : Nat) (places : List Location) : Prop where
  mem_iff : ∀ place, place ∈ places ↔
    place ≠ [] ∧ place.length ≤ depth + 1 ∧ (dir.get? place).isSome
  nodup : places.Nodup
  nodup_lines : (places.map (lineAt path dir)).Nodup
  levels : places.Pairwise fun a b => a.length ≤ b.length
  together : ∀ folder, ∃ before block after, places = before ++ (block ++ after) ∧
    (∀ place ∈ block, place.dropLast = folder) ∧
    (∀ place ∈ before ++ after, place.dropLast ≠ folder) ∧
    block.Pairwise fun a b => lineAt path dir a < lineAt path dir b

theorem lists_of_spans (h : dir.WellNamed) {depth : Nat} {folders : List Location}
    (hspans : Spans dir 0 depth folders) (path : String) :
    Lists path dir depth (folders.flatMap (entriesAt path dir)) := by
  have hnodup : (folders.flatMap (entriesAt path dir)).Nodup := hspans.nodup_entries h
  have hmem : ∀ place, place ∈ folders.flatMap (entriesAt path dir) ↔
      place ≠ [] ∧ place.length ≤ depth + 1 ∧ (dir.get? place).isSome := fun _ =>
    hspans.mem_entries_iff h
  have hlines : ((folders.flatMap (entriesAt path dir)).map (lineAt path dir)).Nodup := by
    refine hnodup.map_on fun a ha b hb heq => ?_
    obtain ⟨hne, -, hthere⟩ := (hmem a).mp ha
    obtain ⟨hne', -, hthere'⟩ := (hmem b).mp hb
    exact lineAt_inj h hne hne' hthere hthere' heq
  refine ⟨hmem, hnodup, hlines, hspans.entries_levels, fun folder => ?_⟩
  obtain ⟨before, block, after, hsplit, hblock, hothers⟩ := hspans.entries_together path folder
  refine ⟨before, block, after, hsplit, ?_, hothers, ?_⟩
  · rcases hblock with ⟨hfolder, rfl⟩ | rfl
    · exact fun place hplace => (hspans.parent_eq hfolder hplace).2
    · exact fun place hplace => absurd hplace List.not_mem_nil
  · rw [hsplit, List.map_append, List.map_append] at hlines
    have hdiffer := (List.nodup_append.mp (List.nodup_append.mp hlines).2.1).1
    rcases hblock with ⟨-, rfl⟩ | rfl
    · exact ((pairwise_entriesAt path dir folder).and (List.pairwise_map.mp hdiffer)).imp
        fun ⟨hle, hne⟩ => String.not_le.mp fun hge => hne (String.le_antisymm hle hge)
    · exact .nil

/-- **Listing a directory** goes through where the directories that it comes to can be opened, and
lists all that lies so many directories below it. -/
theorem run_directory {w : Workplace} {tree : Entry} {path : String} {location : Location}
    {children : List (String × Entry)} (depth : Option UInt64)
    (hdir : Files.find tree w.base (w.resolve path) = .ok (location, .dir children))
    (hnames : (Entry.dir children).WellNamed)
    (hread : Files.Readable tree w.base (w.resolve path) (.dir children) (depthOf depth)) :
    ∃ places, Lists (w.resolve path) (.dir children) (depthOf depth) places ∧
      run w tree (.directory path depth) = .ok (.text (String.intercalate "\n"
        (places.map (lineAt (w.resolve path) (.dir children))))) := by
  have hlevel : IsLevel (.dir children) 0 [[]] := by
    refine ⟨List.nodup_singleton [], fun place => ?_⟩
    rw [List.mem_singleton, List.length_eq_zero_iff, iff_self_and]
    rintro rfl
    exact ⟨children, rfl⟩
  have hspans := spans_foldersFrom hnames hlevel (depthOf depth)
  have hlisted := listing_eq hnames hdir hread hlevel (Nat.zero_add _).le
  rw [Nat.zero_add] at hspans
  refine ⟨_, lists_of_spans hnames hspans (w.resolve path), ?_⟩
  rw [List.map_singleton, List.foldl_nil] at hlisted
  rw [run, FileRead.path, hlisted]

/-- A directory with a file, a link that leads back up, and directories in it. -/
def drawer : Entry :=
  .dir [("a", .file []), ("b", .link ".."), ("c", .dir [("deep", .dir [])])]

/-- Somebody who works at the root. -/
def atRoot : Workplace := ⟨"/", "/", defaultMaxOutput, []⟩

theorem find_drawer : Files.find (.dir [("d", drawer)]) atRoot.base "/d" = .ok (["d"], drawer) :=
  Files.find_child (by decide +kernel) (by decide +kernel) (by decide +kernel) (by decide +kernel)
    rfl rfl atRoot.base

theorem find_drawer_inner : Files.find (.dir [("d", drawer)]) atRoot.base "/d/c" =
    .ok (["d", "c"], .dir [("deep", .dir [])]) := by
  have hroot : (Entry.dir [("d", drawer)]).get? [] = some (.dir [("d", drawer)]) := rfl
  have houter : (Entry.dir [("d", drawer)]).get? ["d"] = some drawer := rfl
  have hinner : (Entry.dir [("d", drawer)]).get? ["d", "c"] = some (.dir [("deep", .dir [])]) := rfl
  have hsteps : Files.steps "/d/c" = ["d", "c"] := by decide +kernel
  rw [Files.find_eq_ok_iff, Files.walk_eq_ok_iff, if_pos (by decide +kernel), hsteps]
  refine ⟨by decide +kernel, ?_⟩
  rw [Files.walkFrom_down (Files.kindAt_of_get? hroot) (by decide) (by decide) (by decide +kernel)
      (Files.kindAt_of_get? houter) (by rintro target ⟨⟩), List.nil_append,
    Files.walkFrom_down (Files.kindAt_of_get? houter) (by decide) (by decide) (by decide +kernel)
      (Files.kindAt_of_get? hinner) (by rintro target ⟨⟩), List.singleton_append, Files.walkFrom,
    hinner]

theorem readable_drawer : Files.Readable (.dir [("d", drawer)]) atRoot.base "/d" drawer 1 := by
  intro place children hdepth hplace
  match place, hdepth with
  | [], _ => exact ⟨_, Files.listDir_eq_ok_iff.mpr ⟨_, find_drawer⟩⟩
  | [name], _ =>
      have hchild : drawer.get? ([] ++ [name]) = some (.dir children) := hplace
      obtain ⟨siblings, hdir, hmem⟩ := Entry.WellNamed.exists_dir_of_get?_concat hchild
      cases hdir
      obtain ⟨rfl, -⟩ : name = "c" ∧ children = [("deep", .dir [])] := by simpa using hmem
      have hpath : Path.join "/d" "c" = "/d/c" := by decide +kernel
      rw [List.foldl_cons, List.foldl_nil, hpath]
      exact ⟨_, Files.listDir_eq_ok_iff.mpr ⟨_, find_drawer_inner⟩⟩

theorem listing_drawer : listing (.dir [("d", drawer)]) atRoot.base 1 ["/d"] =
    .ok ["- /d/a", "- /d/b", "d /d/c", "d /d/c/deep"] := by
  have hopen : openFolder (.dir [("d", drawer)]) atRoot.base "/d" =
      .ok ⟨"/d", drawer.children⟩ := by
    rw [openFolder, Files.listDir_eq_ok_iff.mpr ⟨_, find_drawer⟩]
    rfl
  have hbelow : openFolder (.dir [("d", drawer)]) atRoot.base "/d/c" =
      .ok ⟨"/d/c", [("deep", .dir [])]⟩ := by
    rw [openFolder, Files.listDir_eq_ok_iff.mpr ⟨_, find_drawer_inner⟩]
    rfl
  have houter : Folder.lines ⟨"/d", drawer.children⟩ = ["- /d/a", "- /d/b", "d /d/c"] := by
    have hlines : drawer.children.map (Folder.lineOf ⟨"/d", drawer.children⟩) =
        ["- /d/a", "- /d/b", "d /d/c"] := by decide +kernel
    rw [Folder.lines, hlines]
    exact List.mergeSort_of_pairwise (by decide +kernel)
  have hnext : Folder.subfolders ⟨"/d", drawer.children⟩ = ["/d/c"] := by decide +kernel
  have hinner : Folder.lines ⟨"/d/c", [("deep", .dir [])]⟩ = ["d /d/c/deep"] :=
    (List.mergeSort_singleton _).trans (congrArg ([·])
      (show Folder.lineOf ⟨"/d/c", []⟩ ("deep", .dir []) = "d /d/c/deep" by decide +kernel))
  rw [listing_succ, List.mapM_cons, hopen]
  simp only [listing, List.mapM_nil, List.mapM_cons, bind, Except.bind, pure, Except.pure,
    List.flatMap_singleton, hbelow, houter, hnext, hinner]
  rfl

/-- The directories are marked, the link is a leaf, and what is deeper comes last. -/
theorem run_directory_drawer :
    Files.find (.dir [("d", drawer)]) atRoot.base (atRoot.resolve "d") = .ok (["d"], drawer) ∧
      drawer.WellNamed ∧
      Files.Readable (.dir [("d", drawer)]) atRoot.base (atRoot.resolve "d") drawer 1 ∧
      ∃ places, Lists (atRoot.resolve "d") drawer 1 places ∧
        run atRoot (.dir [("d", drawer)]) (.directory "d" (some 1)) =
          .ok (.text (String.intercalate "\n" (places.map (lineAt (atRoot.resolve "d") drawer)))) ∧
        String.intercalate "\n" (places.map (lineAt (atRoot.resolve "d") drawer)) =
          "- /d/a\n- /d/b\nd /d/c\nd /d/c/deep" := by
  have hpath : atRoot.resolve "d" = "/d" := by decide +kernel
  have hfind : Files.find (.dir [("d", drawer)]) atRoot.base (atRoot.resolve "d") =
      .ok (["d"], drawer) := hpath ▸ find_drawer
  have hnames : drawer.WellNamed := by
    simp [drawer, IsName]
  have hread : Files.Readable (.dir [("d", drawer)]) atRoot.base (atRoot.resolve "d") drawer 1 :=
    hpath ▸ readable_drawer
  obtain ⟨places, hlists, hrun⟩ := run_directory (some 1) hfind hnames hread
  refine ⟨hfind, hnames, hread, places, hlists, hrun, ?_⟩
  have hlisted : listing (.dir [("d", drawer)]) atRoot.base (depthOf (some 1))
      [atRoot.resolve "d"] = .ok ["- /d/a", "- /d/b", "d /d/c", "d /d/c/deep"] :=
    hpath ▸ listing_drawer
  rw [run, FileRead.path, hlisted] at hrun
  exact (Output.text.inj (Except.ok.inj hrun)).symm

end FileRead

end ToolAgent
