import ToolAgent.Proofs.Shell.Words
import ToolAgent.Proofs.Text.Words
import ToolAgent.Tool.Command

/-!
# Commands that run without a question

Whether a command only reads is judged by its words between blanks, but what runs are the words that
a shell makes of the line. The two agree where nothing is quoted and all blanks are spaces or tabs
(`onlyReads_of_plain`). `onlyReads_iff` gives the exact condition for a line that runs without a
question: the first word has to stand between spaces and tabs, and no quoted word may be an option
by which `find` writes.
-/

namespace ToolAgent.CommandLine

open Quoting (isGap isMark written)

/-- The words name a program that only reads, and no option by which `find` does more. -/
def OnlyReads (words : List String) : Prop :=
  ∃ program args, words = program :: args ∧ program ∈ readers ∧
    (program = "find" → ∀ word ∈ words, word ∉ findWriters)

/-- The words that a shell makes of the line. -/
def shellWords (c : CommandLine) : List String := (Quoting.words c.text.toList).map String.ofList

/-- The line shows the shell the first word that is judged, and `find` no option that is not. -/
structure Outspoken (c : CommandLine) : Prop where
  /-- The first word stands between gaps, or an end of the line. -/
  opening : ∃ lead program rest, c.text.toList = lead ++ (program ++ rest) ∧
    String.ofList program ∈ readers ∧ (∀ x ∈ lead, isGap x = true) ∧
    ∀ x ∈ rest.head?, isGap x = true
  /-- No word that is quoted is an option by which `find` writes. -/
  options : c.words.head? = some "find" → ∀ piece ∈ written c.text.toList,
    (∃ x ∈ piece, isMark x = true) → String.ofList (Quoting.bare.unquote piece) ∉ findWriters

/-! ## What is judged -/

theorem isBlank_of_isGap {x : Char} (h : isGap x = true) : Text.isBlank x = true := by
  simp only [isGap, Bool.or_eq_true, decide_eq_true_eq] at h
  rcases h with rfl | rfl <;> decide

theorem isGap_of_not_blank {x : Char} (h : Text.isBlank x = false) : isGap x = false := by
  apply Bool.eq_false_iff.mpr
  intro hgap
  rw [isBlank_of_isGap hgap] at h
  cases h

theorem isMark_of_isBlank {x : Char} (h : Text.isBlank x = true) : isMark x = false := by
  apply Bool.eq_false_iff.mpr
  intro hmark
  simp only [isMark, Bool.or_eq_true, decide_eq_true_eq] at hmark
  rcases hmark with (rfl | rfl) | rfl <;> exact absurd h (by decide)

/-- The name of a program that only reads is written without blanks and quotes. -/
theorem plain_of_mem_readers : ∀ program ∈ readers, program.toList ≠ [] ∧
    ∀ x ∈ program.toList, Text.isBlank x = false ∧ isMark x = false := by
  have hall : readers.all (fun program => program.toList ≠ [] ∧
      program.toList.all fun x => Text.isBlank x = false ∧ isMark x = false) = true := by decide
  intro program hprogram
  obtain ⟨hne, hplain⟩ := of_decide_eq_true (List.all_eq_true.mp hall program hprogram)
  exact ⟨hne, fun x hx => of_decide_eq_true (List.all_eq_true.mp hplain x hx)⟩

theorem plain_of_mem_findWriters : ∀ option ∈ findWriters, option.toList ≠ [] ∧
    ∀ x ∈ option.toList, Text.isBlank x = false := by
  have hall : findWriters.all (fun option => option.toList ≠ [] ∧
      option.toList.all fun x => Text.isBlank x = false) = true := by decide
  intro option hoption
  obtain ⟨hne, hplain⟩ := of_decide_eq_true (List.all_eq_true.mp hall option hoption)
  exact ⟨hne, fun x hx => of_decide_eq_true (List.all_eq_true.mp hplain x hx)⟩

/-- **What runs without a question only reads, as far as its words between blanks tell.** -/
theorem onlyReads_words {c : CommandLine} (h : c.requiresConsent = false) : OnlyReads c.words := by
  obtain ⟨-, hjudged⟩ := Bool.or_eq_false_iff.mp h
  split at hjudged
  · cases hjudged
  · next program args hwords =>
      obtain ⟨hreader, hoptions⟩ := Bool.or_eq_false_iff.mp hjudged
      refine ⟨program, args, hwords, by simpa using hreader, ?_⟩
      rintro rfl word hword hwriter
      rw [hwords] at hword
      rcases List.mem_cons.mp hword with rfl | hword
      · exact absurd hwriter (by decide)
      · simp only [beq_self_eq_true, Bool.true_and, List.any_eq_false] at hoptions
        exact hoptions word hword (by simpa using hwriter)

/-! ## What runs -/

theorem mem_shellWords {c : CommandLine} {word : String} :
    word ∈ c.shellWords ↔ ∃ piece ∈ written c.text.toList,
      String.ofList (Quoting.bare.unquote piece) = word := by
  simp only [shellWords, Quoting.words, List.mem_map]
  constructor
  · rintro ⟨_, ⟨piece, hpiece, rfl⟩, hword⟩
    exact ⟨piece, hpiece, hword⟩
  · rintro ⟨piece, hpiece, hword⟩
    exact ⟨_, ⟨piece, hpiece, rfl⟩, hword⟩

/-- A line does not only read if a blank stands in what its first word begins with. -/
theorem not_onlyReads_of_blank {c : CommandLine} {lead front rest : List Char} {x : Char}
    (htext : c.text.toList = lead ++ (front ++ rest)) (hlead : ∀ y ∈ lead, isGap y = true)
    (hfront : ∀ y ∈ front, isMark y = false ∧ isGap y = false) (hx : x ∈ front)
    (hblank : Text.isBlank x = true) : ¬ OnlyReads c.shellWords := by
  rintro ⟨program, args, hwords, hreader, -⟩
  obtain ⟨tail, others, hfirst, -⟩ := Quoting.words_append (List.ne_nil_of_mem hx) hfront rest
  rw [shellWords, htext, Quoting.words_of_gaps hlead, hfirst, List.map_cons] at hwords
  obtain ⟨rfl, -⟩ := List.cons.inj hwords
  have hplain := (plain_of_mem_readers _ hreader).2 x
    (by rw [String.toList_ofList]; exact List.mem_append_left _ hx)
  rw [hplain.1] at hblank
  cases hblank

/-- Blanks in front of the first word are gaps if the line only reads. -/
theorem isGap_of_mem_lead {c : CommandLine} (h : OnlyReads c.shellWords) {lead rest : List Char}
    (htext : c.text.toList = lead ++ rest) (hlead : ∀ x ∈ lead, Text.isBlank x = true) :
    ∀ x ∈ lead, isGap x = true := by
  intro x hx
  cases hgap : isGap x with
  | true => rfl
  | false =>
      -- The first blank that is no gap would begin the first word of the shell.
      have hsome : (lead.find? (!isGap ·)).isSome := List.find?_isSome.mpr ⟨x, hx, by simp [hgap]⟩
      obtain ⟨u, hfind⟩ := Option.isSome_iff_exists.mp hsome
      obtain ⟨hu, gaps, more, rfl, hgaps⟩ := List.find?_eq_some_iff_append.mp hfind
      have hublank : Text.isBlank u = true := hlead u (by simp)
      have htext' : c.text.toList = gaps ++ ([u] ++ (more ++ rest)) := by
        rw [htext]
        simp
      have hfront : ∀ y ∈ [u], isMark y = false ∧ isGap y = false := by
        simpa using ⟨isMark_of_isBlank hublank, by simpa using hu⟩
      exact absurd h (not_onlyReads_of_blank htext' (by simpa using hgaps) hfront
        (List.mem_singleton_self u) hublank)

/-- A blank behind the first word is a gap if the line only reads. -/
theorem isGap_of_head_rest {c : CommandLine} (h : OnlyReads c.shellWords)
    {lead program rest : List Char} (htext : c.text.toList = lead ++ (program ++ rest))
    (hlead : ∀ x ∈ lead, isGap x = true)
    (hprogram : ∀ x ∈ program, isMark x = false ∧ isGap x = false)
    (hrest : ∀ x ∈ rest.head?, Text.isBlank x = true) : ∀ x ∈ rest.head?, isGap x = true := by
  intro x hx
  cases hgap : isGap x with
  | true => rfl
  | false =>
      obtain ⟨more, rfl⟩ := List.head?_eq_some_iff.mp hx
      have hblank : Text.isBlank x = true := hrest x rfl
      have htext' : c.text.toList = lead ++ ((program ++ [x]) ++ more) := by
        rw [htext]
        simp
      have hfront : ∀ y ∈ program ++ [x], isMark y = false ∧ isGap y = false := by
        intro y hy
        rcases List.mem_append.mp hy with hy | hy
        · exact hprogram y hy
        · obtain rfl := List.mem_singleton.mp hy
          exact ⟨isMark_of_isBlank hblank, hgap⟩
      exact absurd h (not_onlyReads_of_blank htext' hlead hfront (by simp) hblank)

/-- A line that opens with a program shows it to the shell and to the check. -/
theorem exists_words {c : CommandLine} {lead program rest : List Char}
    (htext : c.text.toList = lead ++ (program ++ rest)) (hreader : String.ofList program ∈ readers)
    (hlead : ∀ x ∈ lead, isGap x = true) (hrest : ∀ x ∈ rest.head?, isGap x = true) :
    (∃ args, c.shellWords = String.ofList program :: args) ∧
      c.words.head? = some (String.ofList program) := by
  obtain ⟨hne, hplain⟩ := plain_of_mem_readers _ hreader
  rw [String.toList_ofList] at hne hplain
  constructor
  · obtain ⟨tail, others, hfirst, htail⟩ := Quoting.words_append hne
      (fun x hx => ⟨(hplain x hx).2, isGap_of_not_blank (hplain x hx).1⟩) rest
    rw [htail hrest, List.append_nil] at hfirst
    refine ⟨others.map String.ofList, ?_⟩
    rw [shellWords, htext, Quoting.words_of_gaps hlead, hfirst, List.map_cons]
  · obtain ⟨others, hfirst⟩ := Text.exists_wordsOf_append hne (fun x hx => (hplain x hx).1)
      (fun x hx => isBlank_of_isGap (hrest x hx))
    rw [words, Text.words, htext, Text.wordsOf_of_blanks fun x hx => isBlank_of_isGap (hlead x hx),
      hfirst]
    rfl

/-- An option that is not quoted is seen by the check. -/
theorem mem_words_of_written {c : CommandLine} {piece : List Char}
    (hpiece : piece ∈ written c.text.toList) (hmark : ¬ ∃ x ∈ piece, isMark x = true)
    (hwriter : String.ofList (Quoting.bare.unquote piece) ∈ findWriters) :
    String.ofList (Quoting.bare.unquote piece) ∈ c.words := by
  have hunquote : Quoting.bare.unquote piece = piece := by
    apply Quoting.unquote_of_none
    intro x hx
    exact Bool.eq_false_iff.mpr fun hx' => hmark ⟨x, hx, hx'⟩
  rw [hunquote] at hwriter ⊢
  obtain ⟨hne, hplain⟩ := plain_of_mem_findWriters _ hwriter
  rw [String.toList_ofList] at hne hplain
  obtain ⟨-, before, after, htext, hbefore, hafter⟩ := Quoting.exists_of_mem_written hpiece
  apply List.mem_map_of_mem
  rw [htext]
  exact Text.mem_wordsOf hne hplain (fun x hx => isBlank_of_isGap (hbefore x hx))
    (fun x hx => isBlank_of_isGap (hafter x hx))

theorem Outspoken.onlyReads {c : CommandLine} (h : c.requiresConsent = false)
    (hspoken : c.Outspoken) : OnlyReads c.shellWords := by
  obtain ⟨lead, program, rest, htext, hreader, hlead, hrest⟩ := hspoken.opening
  obtain ⟨⟨args, hshell⟩, hhead⟩ := exists_words htext hreader hlead hrest
  refine ⟨_, args, hshell, hreader, fun hfind word hword hwriter => ?_⟩
  obtain ⟨piece, hpiece, rfl⟩ := mem_shellWords.mp hword
  rw [hfind] at hhead
  by_cases hmark : ∃ x ∈ piece, isMark x = true
  · exact hspoken.options hhead piece hpiece hmark hwriter
  · obtain ⟨first, others, hwords, -, hoptions⟩ := onlyReads_words h
    rw [hwords] at hhead
    have hfirst : first = "find" := Option.some.inj hhead
    exact hoptions hfirst _ (mem_words_of_written hpiece hmark hwriter) hwriter

theorem outspoken_of_onlyReads {c : CommandLine} (h : c.requiresConsent = false)
    (hreads : OnlyReads c.shellWords) : c.Outspoken := by
  obtain ⟨first, others, hwords, hreader, -⟩ := onlyReads_words h
  obtain ⟨program, rest', hchars, rfl, -⟩ := List.map_eq_cons_iff.mp hwords
  obtain ⟨hne, hplain⟩ := plain_of_mem_readers _ hreader
  rw [String.toList_ofList] at hne hplain
  obtain ⟨lead, rest, htext, hlead, hrest⟩ := Text.eq_append_of_wordsOf hchars
  have hplain' : ∀ x ∈ program, isMark x = false ∧ isGap x = false :=
    fun x hx => ⟨(hplain x hx).2, isGap_of_not_blank (hplain x hx).1⟩
  have hlead' := isGap_of_mem_lead hreads htext hlead
  have hrest' := isGap_of_head_rest hreads htext hlead' hplain' hrest
  obtain ⟨⟨args, hshell⟩, -⟩ := exists_words htext hreader hlead' hrest'
  refine ⟨⟨lead, program, rest, htext, hreader, hlead', hrest'⟩, ?_⟩
  intro hfind piece hpiece _
  rw [hwords] at hfind
  obtain ⟨_, _, hshell', -, hoptions⟩ := hreads
  rw [hshell] at hshell'
  obtain ⟨rfl, -⟩ := List.cons.inj hshell'
  exact hoptions (Option.some.inj hfind) _ (mem_shellWords.mpr ⟨piece, hpiece, rfl⟩)

/-- **A line that runs without a question only reads exactly if it shows the shell the words that
are judged:** nothing but spaces and tabs around the first word, and no quoted option by which
`find` writes. -/
theorem onlyReads_iff {c : CommandLine} (h : c.requiresConsent = false) :
    OnlyReads c.shellWords ↔ c.Outspoken :=
  ⟨outspoken_of_onlyReads h, Outspoken.onlyReads h⟩

theorem onlyReads_of_find : (CommandLine.mk "find . -name '*.rs'").requiresConsent = false ∧
    (CommandLine.mk "find . -name '*.rs'").Outspoken := by
  have hconsent : (CommandLine.mk "find . -name '*.rs'").requiresConsent = false := by
    decide +kernel
  have hwords : (CommandLine.mk "find . -name '*.rs'").shellWords =
      ["find", ".", "-name", "*.rs"] := by decide
  refine ⟨hconsent, (onlyReads_iff hconsent).mp ⟨"find", _, hwords, by decide, ?_⟩⟩
  intro _ word hword
  rw [hwords] at hword
  revert word
  decide

/-- A quoted option deletes files without a question. -/
theorem deletes_without_consent :
    (CommandLine.mk "find . -type f \"-delete\"").requiresConsent = false ∧
      ¬ OnlyReads (CommandLine.mk "find . -type f \"-delete\"").shellWords := by
  have hwords : (CommandLine.mk "find . -type f \"-delete\"").shellWords =
      ["find", ".", "-type", "f", "-delete"] := by decide
  refine ⟨by decide +kernel, ?_⟩
  rintro ⟨program, args, hsplit, -, hoptions⟩
  rw [hwords] at hsplit hoptions
  obtain ⟨rfl, -⟩ := List.cons.inj hsplit
  exact hoptions rfl "-delete" (by decide) (by decide)

end ToolAgent.CommandLine
