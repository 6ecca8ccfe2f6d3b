import ToolAgent.Proofs.Files.Writing
import ToolAgent.Proofs.Text.Occurrences

/-!
# Replacing a text in a file

A replacement counts where the old text occurs from the left, without overlaps. So it is made if the
old text has a foremost occurrence, one within which all others begin (`run_replace`); that is,
where no occurrences overlap, if the old text occurs exactly once. Where they overlap, an edit that
is ambiguous may be made (`ambiguous_replaced`). In all other cases the file stays as it is.
-/

namespace ToolAgent.FileWrite

open Text (OccursAt Foremost)

variable {text old new before rest : List Char}

/-! ## In a text -/

/-- What is replaced is the foremost occurrence. -/
theorem replaceOnce_of_foremost (h : Foremost old (before ++ (old ++ rest)) before.length) :
    replaceOnce (before ++ (old ++ rest)) old new = .ok (before ++ new ++ rest) := by
  rw [replaceOnce, occurrences_eq_one_iff.mpr ⟨_, h⟩, h.cut?_eq]
  rfl

/-- Nothing is replaced if there is no foremost occurrence: either there is no occurrence at all, or
more than one is counted. -/
theorem replaceOnce_of_not_foremost (h : ¬ ∃ place, Foremost old text place) (new : List Char) :
    ∃ fault, replaceOnce text old new = .error fault ∧
      ((fault = .absent (String.ofList old) ∧ ¬ ∃ place, OccursAt old text place) ∨
        ∃ count ≥ 2, fault = .ambiguous count ∧ ∃ place, OccursAt old text place) := by
  rw [← occurrences_eq_one_iff] at h
  rw [← occurrences_eq_zero_iff, replaceOnce]
  match hcount : occurrences old text with
  | 0 => exact ⟨_, rfl, .inl ⟨rfl, rfl⟩⟩
  | 1 => exact absurd hcount h
  | count + 2 =>
      have hsome : ∃ place, OccursAt old text place := by
        by_contra hnone
        rw [occurrences_eq_zero_iff.mpr hnone] at hcount
        cases hcount
      exact ⟨_, rfl, .inr ⟨count + 2, Nat.le_add_left _ _, rfl, hsome⟩⟩

/-! ## In a file -/

variable {w : Workplace} {tree : Entry} {path : String} {location : Location} {content : Bytes}

theorem load_of_find (hfile : Files.find tree w.base path = .ok (location, .file content)) :
    load w tree path = match Utf8.decode? content with
      | some text => .ok text
      | none => .error (.io FileError.notText.message) := by
  rw [load, Files.readText, Files.readBytes, hfile]
  dsimp only
  rw [Utf8.toString?]
  cases Utf8.decode? content with
  | none => rfl
  | some text => exact congrArg Except.ok String.toList_ofList

theorem store_of_find (hfile : Files.find tree w.base path = .ok (location, .file content))
    (text : List Char) :
    store w tree path text = .ok (tree.put location (.file (Utf8.encode text))) := by
  rw [store, Files.writeBytes_of_find hfile]

/-- A replacement in a file is made in its text. -/
theorem run_replace_eq
    (hfile : Files.find tree w.base (w.resolve path) = .ok (location, .file content))
    (htext : Utf8.decode? content = some text) (old new : String) :
    run w tree (.replace path old new) = match replaceOnce text old.toList new.toList with
      | .error fault => (.error (.tool fault.message), tree)
      | .ok edited => (.ok (.text ""), tree.put location (.file (Utf8.encode edited))) := by
  have hload : load w tree (w.resolve path) = .ok text := by rw [load_of_find hfile, htext]
  cases hreplaced : replaceOnce text old.toList new.toList with
  | error fault => simp only [run, FileWrite.path, hload, hreplaced]
  | ok edited => simp only [run, FileWrite.path, hload, hreplaced, store_of_find hfile]

theorem run_replace_of_foremost
    (hfile : Files.find tree w.base (w.resolve path) = .ok (location, .file content))
    (htext : Utf8.decode? content = some text) {old : String}
    (hsplit : text = before ++ (old.toList ++ rest))
    (hforemost : Foremost old.toList text before.length) (new : String) :
    run w tree (.replace path old new) =
      (.ok (.text ""), tree.put location (.file (Utf8.encode (before ++ new.toList ++ rest)))) := by
  subst hsplit
  rw [run_replace_eq hfile htext, replaceOnce_of_foremost hforemost]

theorem run_replace_of_not_foremost
    (hfile : Files.find tree w.base (w.resolve path) = .ok (location, .file content))
    (htext : Utf8.decode? content = some text) {old : String}
    (hnone : ¬ ∃ place, Foremost old.toList text place) (new : String) :
    ∃ fault : ReplaceFault,
      run w tree (.replace path old new) = (.error (.tool fault.message), tree) ∧
      (fault = .absent old ↔ ¬ ∃ place, OccursAt old.toList text place) := by
  obtain ⟨fault, hfault, hkind⟩ := replaceOnce_of_not_foremost hnone new.toList
  refine ⟨fault, by rw [run_replace_eq hfile htext, hfault], ?_⟩
  rw [String.ofList_toList] at hkind
  rcases hkind with ⟨rfl, habsent⟩ | ⟨count, -, rfl, hsome⟩
  · exact iff_of_true rfl habsent
  · exact iff_of_false ReplaceFault.noConfusion (not_not_intro hsome)

/-- **What a replacement does.** On a file whose bytes are a text it succeeds if and only if the old
text has a foremost occurrence. Then the file has the new text in the place of that occurrence, and
the path leads to it; otherwise there is an error and everything stays as it is. So where no
occurrences overlap it succeeds if and only if the old text occurs at exactly one place. Bytes that
are no text are an error, and stay. -/
theorem run_replace
    (hfile : Files.find tree w.base (w.resolve path) = .ok (location, .file content))
    (old new : String) :
    (∀ text, Utf8.decode? content = some text →
      ((run w tree (.replace path old new)).1.isOk ↔ ∃ place, Foremost old.toList text place) ∧
      (∀ before rest, text = before ++ (old.toList ++ rest) →
        Foremost old.toList text before.length →
          run w tree (.replace path old new) = (.ok (.text ""),
            tree.put location (.file (Utf8.encode (before ++ new.toList ++ rest)))) ∧
          Files.find (run w tree (.replace path old new)).2 w.base (w.resolve path) =
            .ok (location, .file (Utf8.encode (before ++ new.toList ++ rest)))) ∧
      ((¬ ∃ place, Foremost old.toList text place) → ∃ fault : ReplaceFault,
          run w tree (.replace path old new) = (.error (.tool fault.message), tree) ∧
          (fault = .absent old ↔ ¬ ∃ place, OccursAt old.toList text place)) ∧
      ((∀ place other, OccursAt old.toList text place → OccursAt old.toList text other →
          place < other → place + old.toList.length ≤ other) →
        ((run w tree (.replace path old new)).1.isOk ↔
          ∃! place, OccursAt old.toList text place))) ∧
    (Utf8.decode? content = none →
      run w tree (.replace path old new) = (.error (.io FileError.notText.message), tree)) := by
  constructor
  · intro text htext
    have hsucceeds : (run w tree (.replace path old new)).1.isOk ↔
        ∃ place, Foremost old.toList text place := by
      constructor
      · intro hok
        by_contra hnone
        obtain ⟨fault, hrun, -⟩ := run_replace_of_not_foremost hfile htext hnone new
        rw [hrun] at hok
        cases hok
      · rintro ⟨place, hplace⟩
        obtain ⟨before, rest, hsplit, rfl⟩ := hplace.occurs
        rw [run_replace_of_foremost hfile htext hsplit hplace]
        rfl
    refine ⟨hsucceeds, fun before rest hsplit hforemost => ?_,
      fun hnone => run_replace_of_not_foremost hfile htext hnone new, fun hapart => ?_⟩
    · have hrun := run_replace_of_foremost hfile htext hsplit hforemost new
      refine ⟨hrun, ?_⟩
      rw [hrun]
      exact Files.find_put hfile _
    · -- Where occurrences stand apart, one is the foremost only if there is no other.
      rw [hsucceeds]
      constructor
      · rintro ⟨place, hplace⟩
        exact ⟨place, hplace.occurs, fun other => hplace.unique (hapart place · hplace.occurs)⟩
      · rintro ⟨place, hplace, hunique⟩
        exact ⟨place, .of_unique hplace hunique⟩
  · intro hbytes
    have hload : load w tree (w.resolve path) = .error (.io FileError.notText.message) := by
      rw [load_of_find hfile, hbytes]
    simp only [run, FileWrite.path, hload]

/-- A directory with one file, and who works there. -/
def desk : Workplace := ⟨"/", "/", defaultMaxOutput, []⟩

/-- The tree with this text in one file. -/
def page (text : String) : Entry := .dir [("f", .file (Utf8.ofString text))]

theorem find_page (text : String) :
    Files.find (page text) desk.base (desk.resolve "f") =
      .ok (["f"], .file (Utf8.ofString text)) :=
  Files.find_child (by decide +kernel) (by decide +kernel) (by decide +kernel) (by decide +kernel)
    rfl rfl desk.base

/-- The second of three lines is changed. -/
theorem run_replace_line :
    Files.find (page "one\ntwo\nthree\n") desk.base (desk.resolve "f") =
        .ok (["f"], .file (Utf8.ofString "one\ntwo\nthree\n")) ∧
      run desk (page "one\ntwo\nthree\n") (.replace "f" "two" "2") =
        (.ok (.text ""), page "one\n2\nthree\n") := by
  have hfile := find_page "one\ntwo\nthree\n"
  have htext : Utf8.decode? (Utf8.ofString "one\ntwo\nthree\n") =
      some "one\ntwo\nthree\n".toList := by decide +kernel
  have hforemost : Foremost "two".toList "one\ntwo\nthree\n".toList "one\n".toList.length :=
    (Text.foremost_iff (by decide)).mpr ⟨_, "\nthree\n".toList, by decide, rfl, by decide⟩
  have hrun := (((run_replace hfile "two" "2").1 _ htext).2.1 "one\n".toList "\nthree\n".toList
    (by decide) hforemost).1
  refine ⟨hfile, hrun.trans ?_⟩
  rfl

/-- Two occurrences that overlap are counted as one, and the first of them is replaced. -/
theorem ambiguous_replaced :
    Utf8.decode? (Utf8.ofString "aaa") = some "aaa".toList ∧
      OccursAt "aa".toList "aaa".toList 0 ∧ OccursAt "aa".toList "aaa".toList 1 ∧
      run desk (page "aaa") (.replace "f" "aa" "b") = (.ok (.text ""), page "ba") := by
  have htext : Utf8.decode? (Utf8.ofString "aaa") = some "aaa".toList := by decide +kernel
  refine ⟨htext, ⟨[], ['a'], by decide, rfl⟩, ⟨['a'], [], by decide, rfl⟩, ?_⟩
  have honce : replaceOnce "aaa".toList "aa".toList "b".toList = .ok "ba".toList := by
    decide +kernel
  rw [run_replace_eq (find_page "aaa") htext, honce]
  rfl

end ToolAgent.FileWrite
