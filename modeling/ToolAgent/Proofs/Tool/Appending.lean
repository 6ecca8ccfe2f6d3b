import ToolAgent.Proofs.Files.Creation
import ToolAgent.Proofs.Text.Lines
import ToolAgent.Proofs.Text.Utf8
import ToolAgent.Proofs.Tool.LineRange

/-!
# Writing a file, adding to it and reading it

A created file is closed: it is empty or ends with a line end. What is appended to a closed file
goes behind its lines, and leaves it closed (`linesOf_appendLines`). So the lines of a file are
those of all texts that went into it, in turn (`linesOf_appendAll`), and reading gives them back
(`read_written`). Only an empty text that is appended to an empty file adds a line of its own.
-/

namespace ToolAgent

namespace FileWrite

open Text (Closed linesOf)

variable {text new : List Char}

/-! ## In a text -/

theorem closeLine_of_closed (h : Closed text) : closeLine text = text := by
  rw [closeLine, if_pos]
  rcases h with rfl | hlast
  · rfl
  · simp [hlast]

theorem closeLine_of_open (h : ¬ Closed text) : closeLine text = text ++ ['\n'] := by
  rw [closeLine, if_neg]
  rw [Closed, not_or] at h
  simp [h]

theorem closed_closeLine (text : List Char) : Closed (closeLine text) := by
  by_cases h : Closed text
  · rw [closeLine_of_closed h]
    exact h
  · rw [closeLine_of_open h]
    exact Text.closed_concat text

theorem closeLine_eq_nil_iff : closeLine text = [] ↔ text = [] := by
  by_cases h : Closed text
  · rw [closeLine_of_closed h]
  · rw [closeLine_of_open h]
    refine iff_of_false (List.append_ne_nil_of_right_ne_nil text (List.cons_ne_nil _ _)) ?_
    rintro rfl
    exact h (.inl rfl)

/-- Closing a text does not change its lines. -/
theorem linesOf_closeLine (h : '\r' ∉ text) : linesOf (closeLine text) = linesOf text := by
  by_cases hclosed : Closed text
  · rw [closeLine_of_closed hclosed]
  · rw [closeLine_of_open hclosed, Text.linesOf_concat hclosed h]

/-- What is appended to a closed text is closed; an empty text is closed by a line end if nothing
is before it. -/
theorem appendLines_of_closed (h : Closed text) (new : List Char) :
    appendLines text new = text ++ if text = [] ∧ new = [] then ['\n'] else closeLine new := by
  rw [appendLines, closeLine_of_closed h]
  by_cases hnew : new = []
  · subst hnew
    rcases h with rfl | hlast
    · rfl
    · have hne : text ≠ [] := by
        rintro rfl
        cases hlast
      rw [List.append_nil, if_pos hlast, if_neg (fun hempty => hne hempty.1)]
      exact (List.append_nil text).symm
  · have hsome : ¬ (text = [] ∧ new = []) := fun hempty => hnew hempty.2
    rw [if_neg hsome, List.getLast?_append_of_ne_nil text hnew]
    by_cases hlast : new.getLast? = some '\n'
    · rw [if_pos hlast, closeLine_of_closed (.inr hlast)]
    · have hopen : ¬ Closed new := not_or.mpr ⟨hnew, hlast⟩
      rw [if_neg hlast, closeLine_of_open hopen, List.append_assoc]

theorem appendLines_ne_nil (h : Closed text) (new : List Char) : appendLines text new ≠ [] := by
  rw [appendLines_of_closed h]
  split
  · exact List.append_ne_nil_of_right_ne_nil text (List.cons_ne_nil _ _)
  · next hsome =>
      intro hempty
      obtain ⟨htext, hnew⟩ := List.append_eq_nil_iff.mp hempty
      exact hsome ⟨htext, closeLine_eq_nil_iff.mp hnew⟩

theorem closed_appendLines (h : Closed text) (new : List Char) :
    Closed (appendLines text new) := by
  rw [appendLines_of_closed h]
  split
  · exact Text.closed_concat text
  · rcases closed_closeLine new with hnil | hlast
    · rw [hnil, List.append_nil]
      exact h
    · exact .inr (by rw [List.getLast?_append, hlast]; rfl)

/-- **What one appended text adds**: its lines; an empty text adds an empty line to an empty one. -/
theorem linesOf_appendLines (h : Closed text) (hnew : '\r' ∉ new) :
    linesOf (appendLines text new) =
      linesOf text ++ if text = [] ∧ new = [] then [[]] else linesOf new := by
  rw [appendLines_of_closed h, h.linesOf_append]
  split
  · rfl
  · rw [linesOf_closeLine hnew]

/-- The text after these texts were appended in turn. -/
def appendAll (text : List Char) (news : List (List Char)) : List Char :=
  news.foldl appendLines text

theorem closed_appendAll (h : Closed text) (news : List (List Char)) :
    Closed (appendAll text news) := by
  induction news generalizing text with
  | nil => exact h
  | cons new news ih => exact ih (closed_appendLines h new)

theorem appendAll_eq_nil_iff (h : Closed text) {news : List (List Char)} :
    appendAll text news = [] ↔ text = [] ∧ news = [] := by
  induction news generalizing text with
  | nil => exact (and_iff_left rfl).symm
  | cons new news ih =>
      have hrest := ih (closed_appendLines h new)
      refine iff_of_false (fun hempty => ?_) (fun hempty => List.cons_ne_nil new news hempty.2)
      exact appendLines_ne_nil h new (hrest.mp hempty).1

/-- **What appended texts add**: their lines, in turn. -/
theorem linesOf_appendAll (h : Closed text) {news : List (List Char)}
    (hnews : ∀ new ∈ news, '\r' ∉ new) :
    linesOf (appendAll text news) =
      linesOf text ++ (if text = [] ∧ news.head? = some [] then [[]] else []) ++
        news.flatMap linesOf := by
  induction news generalizing text with
  | nil => simp [appendAll]
  | cons new news ih =>
      obtain ⟨hnew, hnews⟩ := List.forall_mem_cons.mp hnews
      have hrest := ih (closed_appendLines h new) hnews
      rw [if_neg (fun hempty => appendLines_ne_nil h new hempty.1), List.append_nil,
        linesOf_appendLines h hnew] at hrest
      rw [appendAll, List.foldl_cons, ← appendAll, hrest]
      by_cases hempty : text = [] ∧ new = []
      · obtain ⟨rfl, rfl⟩ := hempty
        rfl
      · have hhead : ¬ (text = [] ∧ (new :: news).head? = some []) := fun h' =>
          hempty ⟨h'.1, Option.some.inj h'.2⟩
        rw [if_neg hempty, if_neg hhead, List.append_nil, List.flatMap_cons, List.append_assoc]

/-- The same of whole texts, the first of which is closed. -/
theorem lines_appendAll {text : String} (htext : '\r' ∉ text.toList) {news : List String}
    (hnews : ∀ new ∈ news, '\r' ∉ new.toList) :
    Text.lines (String.ofList (appendAll (closeLine text.toList) (news.map String.toList))) =
      Text.lines text ++ (if text = "" ∧ news.head? = some "" then [""] else []) ++
        news.flatMap Text.lines := by
  have hnone : ∀ new ∈ news.map String.toList, '\r' ∉ new := List.forall_mem_map.mpr hnews
  have hempty : closeLine text.toList = [] ∧ (news.map String.toList).head? = some [] ↔
      text = "" ∧ news.head? = some "" := by
    rw [closeLine_eq_nil_iff, String.toList_eq_nil_iff, List.head?_map, Option.map_eq_some_iff]
    simp
  rw [Text.lines, String.toList_ofList, linesOf_appendAll (closed_closeLine _) hnone,
    linesOf_closeLine htext, List.map_append, List.map_append, List.flatMap_map, List.map_flatMap,
    apply_ite (List.map String.ofList)]
  simp only [hempty]
  rfl

/-! ## In a file -/

variable {w : Workplace} {tree : Entry} {path : String} {location : Location}

/-- The tree after these calls in turn, if all of them succeed. -/
def runAll (w : Workplace) (tree : Entry) : List FileWrite → Option Entry
  | [] => some tree
  | c :: cs =>
    match run w tree c with
    | (.ok _, tree) => runAll w tree cs
    | (.error _, _) => none

/-- The path leads to a file with this text. -/
def HasText (w : Workplace) (tree : Entry) (path : String) (text : List Char) : Prop :=
  ∃ location, Files.find tree w.base (w.resolve path) = .ok (location, .file (Utf8.encode text))

theorem HasText.readText (h : HasText w tree path text) :
    Files.readText tree w.base (w.resolve path) = .ok (String.ofList text) := by
  obtain ⟨location, hfile⟩ := h
  exact Files.readText_of_find hfile (Utf8.decode?_encode text)

theorem hasText_of_store {tree' : Entry}
    (h : store w tree (w.resolve path) text = .ok tree') : HasText w tree' path text := by
  rw [store] at h
  split at h
  · next written hwrite =>
      obtain rfl := Except.ok.inj h
      obtain ⟨location, -, hfind, -⟩ := Files.find_of_writeBytes hwrite
      exact ⟨location, hfind⟩
  · cases h

/-- A file that could be created has the text that it was given, closed. -/
theorem hasText_of_create {content : Option String}
    (h : (run w tree (.create path content)).1.isOk) :
    ∃ tree', run w tree (.create path content) = (.ok (.text ""), tree') ∧
      HasText w tree' path (closeLine (content.getD "").toList) := by
  rw [run, FileWrite.path] at h ⊢
  dsimp only at h ⊢
  split at h
  · cases h
  · next made tree' _ =>
      cases hstore : store w tree' (w.resolve path) (closeLine (content.getD "").toList) with
      | ok written => exact ⟨written, rfl, hasText_of_store hstore⟩
      | error e =>
          rw [hstore] at h
          cases h

/-- Appending to a file with a text succeeds. -/
theorem HasText.append (h : HasText w tree path text) (new : String) :
    ∃ tree', run w tree (.append path new) = (.ok (.text ""), tree') ∧
      HasText w tree' path (appendLines text new.toList) := by
  obtain ⟨location, hfile⟩ := h
  have hload : load w tree (w.resolve path) = .ok text := by
    rw [load_of_find hfile, Utf8.decode?_encode]
  refine ⟨tree.put location (.file (Utf8.encode (appendLines text new.toList))), ?_, location,
    Files.find_put hfile _⟩
  simp only [run, FileWrite.path, hload, store_of_find hfile]

/-- Appending texts in turn succeeds, and the file has them all. -/
theorem HasText.appendAll (h : HasText w tree path text) (news : List String) :
    ∃ after, runAll w tree (news.map (.append path)) = some after ∧
      HasText w after path (appendAll text (news.map String.toList)) := by
  induction news generalizing tree text with
  | nil => exact ⟨tree, rfl, h⟩
  | cons new news ih =>
      obtain ⟨tree', hrun, hhas⟩ := h.append new
      obtain ⟨after, hall, hafter⟩ := ih hhas
      refine ⟨after, ?_, hafter⟩
      rw [List.map_cons, runAll, hrun]
      exact hall

/-- Reading a file with a text by default gives its lines. -/
theorem HasText.read (h : HasText w tree path text) :
    FileRead.run w tree (.lines path none none) =
      .ok (.text (String.intercalate "\n" ((linesOf text).map String.ofList))) := by
  obtain ⟨location, hfile⟩ := h
  have hbounds : ((none : Option Int32).getD 1).toInt = 1 ∧
    ((none : Option Int32).getD (-1)).toInt = -1 := by decide +kernel
  have hlines : String.ofList (['\n'].intercalate (linesOf text)) =
      String.intercalate "\n" ((linesOf text).map String.ofList) := by
    have hid : String.toList ∘ String.ofList = id := funext fun _ => String.toList_ofList
    apply String.toList_inj.mp
    rw [String.toList_ofList, String.toList_intercalate, List.map_map, hid, List.map_id]
    rfl
  rw [FileRead.run_lines_eq hfile (Utf8.decode?_encode text), hbounds.1, hbounds.2,
    FileRead.selectLines_default, ← hlines]
  rfl

/-- **Writing, appending and reading back.** Let a file be created with a text, and let other texts
be appended to it in turn, none of them with a carriage return. If it could be created, everything
succeeds; the file is then empty or ends with a line end, and its lines are those of the first text
and, in turn, of the others; only if the first text is empty and an empty text is the first to be
appended there is an empty line before them. Reading the file by default gives these lines. -/
theorem read_written (w : Workplace) (tree : Entry) (path text : String) (news : List String)
    (htext : '\r' ∉ text.toList) (hnews : ∀ new ∈ news, '\r' ∉ new.toList)
    (hcreate : (run w tree (.create path (some text))).1.isOk) :
    ∃ after content,
      runAll w tree (.create path (some text) :: news.map (.append path)) = some after ∧
      Files.readText after w.base (w.resolve path) = .ok content ∧
      (content = "" ∨ content.toList.getLast? = some '\n') ∧
      (content = "" ↔ text = "" ∧ news = []) ∧
      Text.lines content =
        Text.lines text ++ (if text = "" ∧ news.head? = some "" then [""] else []) ++
          news.flatMap Text.lines ∧
      FileRead.run w after (.lines path none none) =
        .ok (.text (String.intercalate "\n" (Text.lines content))) := by
  obtain ⟨tree', hrun, hhas⟩ := hasText_of_create hcreate
  obtain ⟨after, hall, hafter⟩ := hhas.appendAll news
  rw [Option.getD_some] at hafter
  -- From the first text on, the file is empty or ends with a line end, and stays so.
  have hclosed := closed_closeLine text.toList
  refine ⟨after, _, ?_, hafter.readText, ?_, ?_, ?_, ?_⟩
  · rw [runAll, hrun]
    exact hall
  · rw [String.ofList_eq_empty_iff, String.toList_ofList]
    exact closed_appendAll hclosed _
  · rw [String.ofList_eq_empty_iff, appendAll_eq_nil_iff hclosed, closeLine_eq_nil_iff,
      String.toList_eq_nil_iff, List.map_eq_nil_iff]
  · exact lines_appendAll htext hnews
  · rw [Text.lines, String.toList_ofList]
    exact hafter.read

/-- A file can be created in a directory that is not there yet. -/
theorem isOk_create_page : (run desk (page "") (.create "d/g" (some "one"))).1.isOk := by
  have hpaths : desk.resolve "d/g" = "/d/g" ∧ Path.parent? "/d/g" = some "/d" ∧
      Files.bare "/d" = "/d" := by decide +kernel
  have hsteps : Files.steps "/d" = ["d"] ∧ Files.steps "/d/g" = ["d", "g"] := by decide +kernel
  have hplain : Path.isAbsolute "/d" = true ∧ Path.isAbsolute "/d/g" = true ∧
      ¬ Files.maxPath ≤ Utf8.sizeOf "/d" ∧ ¬ Files.maxPath ≤ Utf8.sizeOf "/d/g" ∧
      ¬ Files.maxName < Utf8.sizeOf "d" ∧ ¬ Files.maxName < Utf8.sizeOf "g" := by decide +kernel
  obtain ⟨hpath, hparent, hbare⟩ := hpaths
  have hmissing : Files.walk (page "") desk.base false "/d" = .ok (.vacant ["d"]) := by
    simp [Files.walk, Files.walkFrom, hsteps, hplain, page, Entry.get?, Entries.find?]
  have hmade : Files.makeDirs (page "") desk.base "/d" =
      (.ok (), .dir [("d", .dir []), ("f", .file [])]) := by
    unfold Files.makeDirs Files.makeDirsFrom
    rw [if_neg (by decide), Files.makeDir, hbare, hmissing]
    rfl
  have hfree : Files.walk (.dir [("d", .dir []), ("f", .file [])]) desk.base true "/d/g" =
      .ok (.vacant ["d", "g"]) := by
    simp [Files.walk, Files.walkFrom, hsteps, hplain, Entry.get?, Entry.children, Entries.find?]
  simp only [run, prepare, FileWrite.path, hpath, hparent, hmade, store, Files.writeBytes, hfree]
  rfl

/-- A file in a new directory gets four lines from four texts, one of them empty. -/
theorem read_written_four :
    '\r' ∉ "one".toList ∧ (∀ new ∈ ["two\nthree", "", "four\n"], '\r' ∉ new.toList) ∧
      (run desk (page "") (.create "d/g" (some "one"))).1.isOk ∧
      ∃ after, runAll desk (page "") (.create "d/g" (some "one") ::
          ["two\nthree", "", "four\n"].map (.append "d/g")) = some after ∧
        FileRead.run desk after (.lines "d/g" none none) =
          .ok (.text "one\ntwo\nthree\nfour") := by
  have htext : '\r' ∉ "one".toList := by decide
  have hnews : ∀ new ∈ ["two\nthree", "", "four\n"], '\r' ∉ new.toList := by decide
  obtain ⟨after, content, hall, -, -, -, hlines, hread⟩ :=
    read_written desk (page "") "d/g" "one" _ htext hnews isOk_create_page
  refine ⟨htext, hnews, isOk_create_page, after, hall, ?_⟩
  rw [hread, hlines]
  decide +kernel

end FileWrite

end ToolAgent
