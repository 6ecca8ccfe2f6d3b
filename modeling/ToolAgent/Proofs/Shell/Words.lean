import ToolAgent.Proofs.Text.Words

/-!
# The words of a simple command line

A shell cuts a command line at the spaces and tabs that are not quoted, and then takes the quotes
away. This module says so for a line without expansions (`Quoting.words`), and how the words look
where nothing is quoted: text without quoting marks stays as it is (`unquote_append`), a word
reaches at least as far as no gap stands (`words_append`), and a line without quoting marks has the
words between its gaps (`words_of_none`).
-/

namespace ToolAgent

/-- How a shell takes the next character of a line. -/
inductive Quoting
  | bare
  /-- Behind a backslash. -/
  | escaped
  /-- Between single quotes. -/
  | single
  /-- Between double quotes. -/
  | double
  /-- Behind a backslash between double quotes. -/
  | doubleEscaped
deriving DecidableEq, Repr

namespace Quoting

/-- The characters that quote others. -/
def isMark (c : Char) : Bool := c = '\'' || c = '"' || c = '\\'

/-- The characters that stand between words. -/
def isGap (c : Char) : Bool := c = ' ' || c = '\t'

/-- How the character after `c` is taken. -/
def next : Quoting → Char → Quoting
  | bare, c =>
    if c = '\'' then single else if c = '"' then double else if c = '\\' then escaped else bare
  | escaped, _ => bare
  | single, c => if c = '\'' then bare else single
  | double, c => if c = '"' then bare else if c = '\\' then doubleEscaped else double
  | doubleEscaped, _ => double

/-- What is left of a character when the quotes are taken away. Between double quotes a backslash
quotes only what would mean something there; a line end behind a backslash goes away with it. -/
def kept : Quoting → Char → List Char
  | bare, c => if isMark c then [] else [c]
  | escaped, c => if c = '\n' then [] else [c]
  | single, c => if c = '\'' then [] else [c]
  | double, c => if c = '"' || c = '\\' then [] else [c]
  | doubleEscaped, c =>
    if c = '\n' then [] else if c = '"' || c = '\\' || c = '$' || c = '\x60' then [c] else ['\\', c]

/-- A text without its quotes. A backslash that nothing follows stays. -/
def unquote : Quoting → List Char → List Char
  | escaped, [] => ['\\']
  | _, [] => []
  | q, c :: cs => q.kept c ++ (q.next c).unquote cs

/-- The pieces of a text between unquoted gaps; one more than there are such gaps. -/
def pieces : Quoting → List Char → List (List Char)
  | _, [] => [[]]
  | q, c :: cs =>
    if q = bare ∧ isGap c then [] :: bare.pieces cs
    else match (q.next c).pieces cs with
      | [] => [[c]]
      | piece :: rest => (c :: piece) :: rest

/-- The words of a line as they are written. -/
def written (cs : List Char) : List (List Char) := (bare.pieces cs).filter (· ≠ [])

/-- The words that a shell makes of a line. -/
def words (cs : List Char) : List (List Char) := (written cs).map bare.unquote

/-! ## Without quotes -/

theorem next_of_not_mark {c : Char} (h : isMark c = false) : bare.next c = bare := by
  simp only [isMark, Bool.or_eq_false_iff, decide_eq_false_iff_not] at h
  obtain ⟨⟨hsingle, hdouble⟩, hescape⟩ := h
  rw [next, if_neg hsingle, if_neg hdouble, if_neg hescape]

/-- Text without quoting marks stays as it is. -/
theorem unquote_append {front : List Char} (h : ∀ c ∈ front, isMark c = false) (cs : List Char) :
    bare.unquote (front ++ cs) = front ++ bare.unquote cs := by
  induction front with
  | nil => rfl
  | cons c front ih =>
      obtain ⟨hc, hfront⟩ := List.forall_mem_cons.mp h
      rw [List.cons_append, unquote, next_of_not_mark hc, ih hfront, kept, hc]
      rfl

theorem unquote_of_none {cs : List Char} (h : ∀ c ∈ cs, isMark c = false) :
    bare.unquote cs = cs := by
  have happend := unquote_append h []
  rw [List.append_nil] at happend
  rw [happend]
  exact List.append_nil cs

theorem pieces_ne_nil (q : Quoting) (cs : List Char) : q.pieces cs ≠ [] := by
  cases cs with
  | nil => simp [pieces]
  | cons c cs =>
      rw [pieces]
      split
      · simp
      · split <;> simp

theorem pieces_gap {c : Char} (h : isGap c = true) (cs : List Char) :
    bare.pieces (c :: cs) = [] :: bare.pieces cs := by
  rw [pieces, if_pos ⟨rfl, h⟩]

theorem pieces_cons {q : Quoting} {c : Char} (h : ¬ (q = bare ∧ isGap c = true)) {cs : List Char}
    {piece : List Char} {rest : List (List Char)} (hpieces : (q.next c).pieces cs = piece :: rest) :
    q.pieces (c :: cs) = (c :: piece) :: rest := by
  rw [pieces, if_neg h, hpieces]

/-- Unquoted text without gaps belongs to one piece. -/
theorem pieces_append {front cs piece : List Char} {rest : List (List Char)}
    (hfront : ∀ c ∈ front, isMark c = false ∧ isGap c = false)
    (h : bare.pieces cs = piece :: rest) :
    bare.pieces (front ++ cs) = (front ++ piece) :: rest := by
  induction front with
  | nil => exact h
  | cons c front ih =>
      obtain ⟨⟨hmark, hgap⟩, hfront⟩ := List.forall_mem_cons.mp hfront
      apply pieces_cons
      · simp [hgap]
      · rw [next_of_not_mark hmark]
        exact ih hfront

/-- Gaps in front of a line make no difference. -/
theorem words_of_gaps {lead : List Char} (h : ∀ c ∈ lead, isGap c = true) (cs : List Char) :
    words (lead ++ cs) = words cs := by
  induction lead with
  | nil => rfl
  | cons c lead ih =>
      obtain ⟨hc, hlead⟩ := List.forall_mem_cons.mp h
      rw [← ih hlead, List.cons_append, words, written, pieces_gap hc]
      rfl

/-- The word at the start of a line reaches as far as no gap and no mark stands, and further unless
a gap follows. -/
theorem words_append {front : List Char} (hne : front ≠ [])
    (hfront : ∀ c ∈ front, isMark c = false ∧ isGap c = false) (cs : List Char) :
    ∃ tail rest, words (front ++ cs) = (front ++ tail) :: rest ∧
      ((∀ c ∈ cs.head?, isGap c = true) → tail = []) := by
  obtain ⟨piece, rest, hpieces⟩ := List.exists_cons_of_ne_nil (pieces_ne_nil bare cs)
  refine ⟨bare.unquote piece, (rest.filter (· ≠ [])).map bare.unquote, ?_, ?_⟩
  · rw [words, written, pieces_append hfront hpieces, List.filter_cons_of_pos (by simp [hne]),
      List.map_cons, unquote_append fun c hc => (hfront c hc).1]
  · intro hgap
    cases cs with
    | nil =>
        obtain ⟨rfl, -⟩ := List.cons.inj hpieces
        rfl
    | cons c cs =>
        rw [pieces_gap (hgap c rfl)] at hpieces
        obtain ⟨rfl, -⟩ := List.cons.inj hpieces
        rfl

/-- Where a piece of a line stands: the first one at its start and any other behind a gap, and each
before a gap or at the end. -/
theorem pieces_eq_cons {q : Quoting} {cs first : List Char} {rest : List (List Char)}
    (h : q.pieces cs = first :: rest) :
    (∃ after, cs = first ++ after ∧ ∀ c ∈ after.head?, isGap c = true) ∧
      ∀ piece ∈ rest, ∃ front gap after, cs = front ++ gap :: (piece ++ after) ∧
        isGap gap = true ∧ ∀ c ∈ after.head?, isGap c = true := by
  induction cs generalizing q first rest with
  | nil =>
      obtain ⟨rfl, rfl⟩ := List.cons.inj h
      exact ⟨⟨[], rfl, by simp⟩, by simp⟩
  | cons c cs ih =>
      -- A piece of what follows `c` stands in the same place, one character later.
      have hshift : ∀ piece, (∃ front gap after, cs = front ++ gap :: (piece ++ after) ∧
          isGap gap = true ∧ ∀ c ∈ after.head?, isGap c = true) →
          ∃ front gap after, c :: cs = front ++ gap :: (piece ++ after) ∧
            isGap gap = true ∧ ∀ c ∈ after.head?, isGap c = true := by
        rintro piece ⟨front, gap, after, hcs, hgap, hafter⟩
        exact ⟨c :: front, gap, after, by rw [hcs]; rfl, hgap, hafter⟩
      by_cases hgap : q = bare ∧ isGap c = true
      · obtain ⟨rfl, hc⟩ := hgap
        rw [pieces_gap hc] at h
        obtain ⟨rfl, rfl⟩ := List.cons.inj h
        obtain ⟨second, later, hpieces⟩ := List.exists_cons_of_ne_nil (pieces_ne_nil bare cs)
        obtain ⟨⟨after, hsecond, hafter⟩, hlater⟩ := ih hpieces
        refine ⟨⟨c :: cs, rfl, by simpa using hc⟩, ?_⟩
        rw [hpieces]
        refine List.forall_mem_cons.mpr ⟨⟨[], c, after, by rw [hsecond]; rfl, hc, hafter⟩, ?_⟩
        exact fun piece hpiece => hshift piece (hlater piece hpiece)
      · obtain ⟨piece, later, hpieces⟩ :=
          List.exists_cons_of_ne_nil (pieces_ne_nil (q.next c) cs)
        rw [pieces_cons hgap hpieces] at h
        obtain ⟨rfl, rfl⟩ := List.cons.inj h
        obtain ⟨⟨after, hfirst, hafter⟩, hlater⟩ := ih hpieces
        refine ⟨⟨after, by rw [hfirst]; rfl, hafter⟩, ?_⟩
        exact fun other hother => hshift other (hlater other hother)

/-- A word as it is written stands between gaps or ends of the line. -/
theorem exists_of_mem_written {cs piece : List Char} (h : piece ∈ written cs) :
    piece ≠ [] ∧ ∃ before after, cs = before ++ (piece ++ after) ∧
      (∀ c ∈ before.getLast?, isGap c = true) ∧ ∀ c ∈ after.head?, isGap c = true := by
  obtain ⟨hmem, hne⟩ := List.mem_filter.mp h
  refine ⟨by simpa using hne, ?_⟩
  obtain ⟨first, rest, hpieces⟩ := List.exists_cons_of_ne_nil (pieces_ne_nil bare cs)
  obtain ⟨⟨after, hfirst, hafter⟩, hrest⟩ := pieces_eq_cons hpieces
  rw [hpieces] at hmem
  rcases List.mem_cons.mp hmem with rfl | hmem
  · exact ⟨[], after, hfirst, by simp, hafter⟩
  · obtain ⟨front, gap, after, hcs, hgap, hafter⟩ := hrest piece hmem
    exact ⟨front ++ [gap], after, by rw [hcs]; simp, by simpa using hgap, hafter⟩

end Quoting

end ToolAgent
