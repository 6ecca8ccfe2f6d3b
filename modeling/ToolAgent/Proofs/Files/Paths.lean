import ToolAgent.Files.Path
import ToolAgent.Proofs.Text.Cut
import ToolAgent.Proofs.Text.Join
import ToolAgent.Proofs.Text.Lines
import ToolAgent.Proofs.Text.Trim

/-!
# Paths and their parts

The paths above a path do not end with a slash (`getLast?_of_parent?`), and names that are joined to
a path one after the other can be read off it (`foldl_join_inj`). What a name is joined to keeps the
names that it has, whether or not there is a slash at its end (`exists_pieces_join`).
-/

namespace ToolAgent

namespace Path

/-! ## Above a path -/

/-- A path is at or above another one: it is that path, or what is left of it without some of its
last components. -/
inductive AtOrAbove : String → String → Prop
  | self (path : String) : AtOrAbove path path
  | parent {above parent path : String} : parent? path = some parent → AtOrAbove above parent →
      AtOrAbove above path

theorem eq_nil_or_concat_of_trimEnd (ps : List String) :
    trimEnd ps = [] ∨ ∃ front last, trimEnd ps = front ++ [last] ∧ isEmptyPiece last = false ∧
      last ∈ ps := by
  have hhead := List.head?_dropWhile_not isEmptyPiece ps.reverse
  rw [trimEnd]
  cases hdrop : ps.reverse.dropWhile isEmptyPiece with
  | nil => exact .inl rfl
  | cons last rest =>
      rw [hdrop] at hhead
      refine .inr ⟨rest.reverse, last, List.reverse_cons, hhead, ?_⟩
      have hmem : last ∈ ps.reverse.dropWhile isEmptyPiece := hdrop ▸ List.mem_cons_self
      exact List.mem_reverse.mp ((List.dropWhile_sublist _).mem hmem)

theorem trimEnd_sublist {ps : List String} : (trimEnd ps).Sublist ps := by
  rw [trimEnd, ← List.reverse_sublist, List.reverse_reverse]
  exact List.dropWhile_sublist _

theorem slash_notMem_of_mem_pieces {path piece : String} (h : piece ∈ pieces path) :
    '/' ∉ piece.toList := by
  obtain ⟨cs, hcs, rfl⟩ := List.mem_map.mp h
  rw [String.toList_ofList]
  intro hslash
  exact absurd (Text.notMem_of_mem_splitOnP hcs _ hslash) (by decide)

/-- The path above a path does not end with a slash, unless it is the root. -/
theorem getLast?_of_parent? {path parent : String} (h : parent? path = some parent) :
    parent = "/" ∨ parent.toList.getLast? ≠ some '/' := by
  have hjoined : ∀ ps : List String, (∀ last ∈ ps.getLast?, last ≠ "" ∧ '/' ∉ last.toList) →
      (ofPieces ps).toList.getLast? ≠ some '/' := by
    intro ps hlast
    rcases List.eq_nil_or_concat' ps with rfl | ⟨front, last, rfl⟩
    · decide
    · obtain ⟨hne, hslash⟩ := hlast last (by simp)
      rw [ofPieces, Text.getLast?_intercalate _ _ hne]
      intro heq
      exact hslash (List.mem_of_getLast? heq)
  have hshorter : ∀ last ∈ (trimEnd (trimEnd (pieces path)).dropLast).getLast?,
      last ≠ "" ∧ '/' ∉ last.toList := by
    intro last hlast
    rcases eq_nil_or_concat_of_trimEnd (trimEnd (pieces path)).dropLast with
      hnil | ⟨front, piece, heq, hpiece, hmem⟩
    · rw [hnil] at hlast
      cases hlast
    · rw [heq, List.getLast?_concat] at hlast
      obtain rfl := Option.some.inj hlast
      refine ⟨?_, slash_notMem_of_mem_pieces (trimEnd_sublist.subset (List.dropLast_subset _ hmem))⟩
      rintro rfl
      cases hpiece
  rw [parent?] at h
  split at h
  · cases h
  · cases h
  · next cs _ _ =>
      dsimp only at h
      split at h
      · split at h
        · exact .inl (Option.some.inj h).symm
        · exact .inr (Option.some.inj h ▸ hjoined [] nofun)
      · split at h
        · split at h
          · exact .inl (Option.some.inj h).symm
          · exact .inr (Option.some.inj h ▸ hjoined ["."] (by simp))
        · split at h
          · exact .inl (Option.some.inj h).symm
          · exact .inr (Option.some.inj h ▸ hjoined _ hshorter)

/-! ## Below a path -/

/-- A name that a file can have: it is not empty, there is no slash in it, and it is not one of the
two that mean a directory itself and the one above it. -/
def IsName (name : String) : Prop :=
  name ≠ "" ∧ '/' ∉ name.toList ∧ name ≠ "." ∧ name ≠ ".."

/-- What stands before the names that are joined to a path. -/
def lead (base : String) : String :=
  if base = "" then "" else if Text.endsWith base "/" then base else base ++ "/"

theorem isAbsolute_of_isName {name : String} (h : IsName name) : isAbsolute name = false := by
  rw [isAbsolute, Text.startsWith, Option.isSome_eq_false_iff, Option.isNone_iff_eq_none,
    Text.after?_eq_none_iff]
  rintro ⟨rest, hrest⟩
  exact h.2.1 (hrest ▸ List.mem_append_left rest (List.mem_singleton_self '/'))

theorem endsWith_slash_iff {base : String} :
    Text.endsWith base "/" = true ↔ base.toList.getLast? = some '/' := by
  rw [Text.endsWith, ← List.head?_reverse]
  cases base.toList.reverse with
  | nil => exact iff_of_false nofun nofun
  | cons c rest =>
      rw [List.head?_cons, Option.some.injEq]
      by_cases hc : c = '/'
      · subst hc
        exact iff_of_true rfl rfl
      · have hnone : Text.after? "/".toList.reverse (c :: rest) = none := by
          rw [Text.after?_eq_none_iff]
          rintro ⟨more, hmore⟩
          exact hc (List.cons.inj hmore).1.symm
        rw [hnone]
        exact iff_of_false nofun hc

theorem join_of_isName {name : String} (h : IsName name) (base : String) :
    join base name = lead base ++ name := by
  rw [join, lead, isAbsolute_of_isName h, Bool.false_or]
  by_cases hbase : base = ""
  · simp [hbase]
  · rw [if_neg hbase, if_neg (by simpa using hbase)]
    split
    · rfl
    · rfl

/-- A slash is put behind a path that ends with a name. -/
theorem lead_of_getLast? {base name : String} (h : IsName name)
    (hlast : base.toList.getLast? = name.toList.getLast?) : lead base = base ++ "/" := by
  have hsome : base ≠ "" := by
    rintro rfl
    exact h.1 (String.toList_eq_nil_iff.mp (List.getLast?_eq_none_iff.mp hlast.symm))
  have hopen : ¬ Text.endsWith base "/" = true := by
    rw [endsWith_slash_iff, hlast]
    exact fun hslash => h.2.1 (List.mem_of_getLast? hslash)
  rw [lead, if_neg hsome, if_neg hopen]

/-- **Names joined to a path** stand behind it with slashes between them. -/
theorem foldl_join {names : List String} (hne : names ≠ []) (h : ∀ name ∈ names, IsName name)
    (base : String) : names.foldl join base = lead base ++ String.intercalate "/" names := by
  induction names using List.reverseRecOn with
  | nil => exact absurd rfl hne
  | append_singleton front last ih =>
      obtain ⟨hfront, hlast⟩ := List.forall_mem_append.mp h
      rw [List.foldl_append, List.foldl_cons, List.foldl_nil,
        join_of_isName (hlast last (List.mem_singleton_self last))]
      by_cases hnil : front = []
      · subst hnil
        rw [List.nil_append, String.intercalate_singleton]
        rfl
      · obtain ⟨before, name, rfl⟩ := (List.eq_nil_or_concat' front).resolve_left hnil
        have hname : IsName name := hfront name (by simp)
        have hjoined := Text.getLast?_intercalate "/" before hname.1
        have hsome : (String.intercalate "/" (before ++ [name])).toList ≠ [] := by
          intro hempty
          rw [hempty] at hjoined
          exact hname.1 (String.toList_eq_nil_iff.mp (List.getLast?_eq_none_iff.mp hjoined.symm))
        have hend : (lead base ++ String.intercalate "/" (before ++ [name])).toList.getLast? =
            name.toList.getLast? := by
          rw [String.toList_append, List.getLast?_append_of_ne_nil _ hsome, hjoined]
        rw [ih hnil hfront, lead_of_getLast? hname hend, Text.intercalate_concat "/" last hnil,
          String.append_assoc, String.append_assoc, String.append_assoc]

/-- Joined names are the pieces of what they are joined to. -/
theorem pieces_join {names : List String} (hne : names ≠ []) (h : ∀ name ∈ names, IsName name) :
    pieces (String.intercalate "/" names) = names := by
  have hplain : ∀ piece ∈ names.map String.toList, '/' ∉ piece :=
    List.forall_mem_map.mpr fun name hname => (h name hname).2.1
  have hsplit : (['/'].intercalate (names.map String.toList)).splitOn '/' =
      names.map String.toList :=
    List.splitOn_intercalate '/' hplain (mt List.map_eq_nil_iff.mp hne)
  have hid : String.ofList ∘ String.toList = id := funext fun _ => String.ofList_toList
  rw [pieces, String.toList_intercalate]
  exact (congrArg (List.map String.ofList) hsplit).trans (by rw [List.map_map, hid, List.map_id])

/-- **Paths below a path** tell by which names they lead there. -/
theorem foldl_join_inj {names names' : List String} (hne : names ≠ []) (hne' : names' ≠ [])
    (h : ∀ name ∈ names, IsName name) (h' : ∀ name ∈ names', IsName name) {base : String}
    (heq : names.foldl join base = names'.foldl join base) : names = names' := by
  rw [foldl_join hne h, foldl_join hne' h', String.append_right_inj] at heq
  rw [← pieces_join hne h, heq, pieces_join hne' h']

/-! ## The names in a path -/

/-- The pieces of a path that mean something. -/
def names (path : String) : List String := (pieces path).filter (!isEmptyPiece ·)

theorem pieces_append_slash (front rest : String) :
    pieces (front ++ "/" ++ rest) = pieces front ++ pieces rest := by
  have htext : (front ++ "/" ++ rest).toList = front.toList ++ '/' :: rest.toList := by
    rw [String.toList_append, String.toList_append, List.append_assoc]
    rfl
  rw [pieces, htext, List.splitOn_append_cons_self, List.map_append]
  rfl

theorem pieces_of_notMem {name : String} (h : '/' ∉ name.toList) : pieces name = [name] := by
  rw [pieces, List.splitOn_eq_singleton h, List.map_singleton, String.ofList_toList]

/-- What stands before a name that is joined to a path has the names of the path. -/
theorem exists_lead_eq {base : String} (h : base ≠ "") :
    ∃ front, lead base = front ++ "/" ∧ names front = names base := by
  rw [lead, if_neg h]
  split
  · next hslash =>
      obtain ⟨front, hfront⟩ := List.getLast?_eq_some_iff.mp (endsWith_slash_iff.mp hslash)
      have hbase : base = String.ofList front ++ "/" := by
        apply String.toList_inj.mp
        rw [hfront, String.toList_append, String.toList_ofList]
        rfl
      refine ⟨String.ofList front, hbase, ?_⟩
      -- Behind the slash there is an empty piece, which is no name.
      have hpieces := pieces_append_slash (String.ofList front) ""
      rw [String.append_empty, ← hbase] at hpieces
      rw [names, names, hpieces, List.filter_append]
      exact (List.append_nil _).symm
  · exact ⟨base, rfl, rfl⟩

/-- **A name that is joined to a path** is one name more. -/
theorem exists_pieces_join {base name : String} (h : IsName name) (hbase : base ≠ "") :
    ∃ front, pieces (join base name) = pieces front ++ [name] ∧ names front = names base := by
  obtain ⟨front, hlead, hnames⟩ := exists_lead_eq hbase
  refine ⟨front, ?_, hnames⟩
  rw [join_of_isName h, hlead, pieces_append_slash, pieces_of_notMem h.2.1]

theorem isEmptyPiece_of_isName {name : String} (h : IsName name) : isEmptyPiece name = false := by
  simp [isEmptyPiece, h.1, h.2.2.1]

theorem isAbsolute_append {base : String} (h : base ≠ "") (rest : String) :
    isAbsolute (base ++ rest) = isAbsolute base := by
  obtain ⟨c, cs, hbase⟩ := List.exists_cons_of_ne_nil (mt String.toList_eq_nil_iff.mp h)
  have hslash : "/".toList = ['/'] := rfl
  rw [isAbsolute, isAbsolute, Text.startsWith, Text.startsWith, String.toList_append, hbase, hslash]
  simp only [List.cons_append, Text.after?]
  split <;> rfl

theorem isAbsolute_join {base name : String} (h : IsName name) (hbase : base ≠ "") :
    isAbsolute (join base name) = isAbsolute base := by
  rw [join_of_isName h, lead, if_neg hbase]
  split
  · exact isAbsolute_append hbase name
  · rw [String.append_assoc]
    exact isAbsolute_append hbase _

end Path

end ToolAgent
