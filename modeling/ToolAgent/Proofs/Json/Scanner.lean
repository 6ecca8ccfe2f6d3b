import ToolAgent.Json.Scanner

/-!
# What the scanner makes of a text

A text of strings, whole numbers and objects is scanned part by part: `Part.Leaves` says what was
made of the start of a text and what it leaves, and there is one lemma for each kind of part. A
blank text holds no value (`parse_of_blank`).
-/

namespace ToolAgent.Json

/-- The node that was made, and what it leaves of the text. -/
structure Part.Leaves {α : Type} {n : Nat} (p : Part α n) (made : α) (rest : List Char) : Prop where
  made_eq : p.made = made
  rest_eq : p.rest.map (·.1) = some rest

theorem Part.leaves_upTo {α : Type} {n : Nat} (made : α) {r : List Char} (h : r.length < n) :
    (Part.upTo made r : Part α n).Leaves made r := by
  rw [Part.upTo, dif_pos h]
  exact ⟨rfl, rfl⟩

theorem Part.Leaves.within {α : Type} {n m : Nat} {p : Part α n} {made : α} {r : List Char}
    (hp : p.Leaves made r) (h : n ≤ m) : (p.within h).Leaves made r := by
  refine ⟨hp.made_eq, ?_⟩
  rw [← hp.rest_eq]
  exact Option.map_map _ _ _

theorem skipSpace_cons {c : Char} (hc : isSpace c = false) (r : List Char) :
    skipSpace (c :: r) = c :: r := by
  rw [skipSpace, List.dropWhile_cons, hc]
  rfl

theorem skipSpace_cons_ne_nil {c : Char} (hc : isSpace c = false) (r : List Char) :
    skipSpace (c :: r) ≠ [] := by
  rw [skipSpace_cons hc]
  exact List.cons_ne_nil c r

theorem eq_of_skipSpace_cons {c c' : Char} {r r' : List Char} (hc : isSpace c = false)
    (h : skipSpace (c :: r) = c' :: r') : c = c' ∧ r = r' := by
  rw [skipSpace_cons hc] at h
  exact List.cons.inj h

theorem scanValue_nil (depth : Nat) :
    scanValue depth [] = .stop (.gap (.ofFault ⟨.endOfValue, before []⟩)) := by
  rw [scanValue]
  split
  · rfl
  · next hskip => cases hskip

/-! ## Strings -/

/-- A character stands for itself between quotes. -/
def StandsForItself (c : Char) : Prop := c ≠ '"' ∧ c ≠ '\\' ∧ 0x20 ≤ c.toNat

instance : DecidablePred StandsForItself :=
  fun c => inferInstanceAs (Decidable (c ≠ '"' ∧ c ≠ '\\' ∧ 0x20 ≤ c.toNat))

theorem standsForItself_of_all {text : List Char}
    (h : text.all (fun c => decide (StandsForItself c)) = true) : ∀ c ∈ text, StandsForItself c :=
  fun c hc => of_decide_eq_true (List.all_eq_true.mp h c hc)

theorem scanString_append {strict : Bool} {seen text : List Char}
    (h : ∀ c ∈ text, StandsForItself c) (rest : List Char) :
    scanString strict seen (text ++ '"' :: rest) = .ok (seen.reverse ++ text, rest) := by
  induction text generalizing seen with
  | nil =>
      rw [List.nil_append, scanString, if_pos rfl, List.append_nil]
  | cons c text ih =>
      obtain ⟨⟨hquote, hescape, hcontrol⟩, htext⟩ := List.forall_mem_cons.mp h
      rw [List.cons_append, scanString, if_neg hquote, if_neg hescape,
        if_neg (Nat.not_lt.mpr hcontrol), ih htext, List.reverse_cons, List.append_assoc]
      rfl

theorem leaves_scanStringNode {n : Nat} {text rest : List Char} (start : Option Spot)
    (h : ∀ c ∈ text, StandsForItself c) (hn : rest.length < n) :
    (scanStringNode start (text ++ '"' :: rest) : Part Node n).Leaves
      (.string (String.ofList text) ⟨start, before rest⟩) rest := by
  rw [scanStringNode, scanString_append h]
  exact Part.leaves_upTo _ hn

theorem leaves_scanValue_string {depth : Nat} {text : List Char}
    (h : ∀ c ∈ text, StandsForItself c) (rest : List Char) :
    (scanValue depth ('"' :: (text ++ '"' :: rest))).Leaves (.string (String.ofList text)
      ⟨before ('"' :: (text ++ '"' :: rest)), before rest⟩) rest := by
  rw [scanValue]
  split
  · next hskip => exact absurd hskip (skipSpace_cons_ne_nil (by decide) _)
  · next c r hskip =>
      obtain ⟨rfl, rfl⟩ := eq_of_skipSpace_cons (by decide) hskip
      exact leaves_scanStringNode _ h (by simp; omega)

/-! ## Whole numbers -/

theorem le_ofDigitChars (digits : List Char) (n : Nat) : n ≤ Nat.ofDigitChars 10 digits n := by
  induction digits generalizing n with
  | nil => exact Nat.le_refl n
  | cons d digits ih =>
      rw [Nat.ofDigitChars_cons]
      exact Nat.le_trans (by omega) (ih _)

/-- Digits are taken as long as what they write so far is not too large. -/
theorem pushDigits_eq {limit n : Nat} {digits : List Char}
    (h : Nat.ofDigitChars 10 digits n ≤ limit) :
    pushDigits limit n digits = (Nat.ofDigitChars 10 digits n, []) := by
  induction digits generalizing n with
  | nil => rfl
  | cons d digits ih =>
      rw [Nat.ofDigitChars_cons, Nat.mul_comm 10 n] at h ⊢
      have hfits : ¬ limit < n * 10 + digitValue d :=
        Nat.not_lt.mpr (Nat.le_trans (le_ofDigitChars digits _) h)
      rw [pushDigits]
      exact (if_neg hfits).trans (ih h)

/-- Only zero is written with a zero in front. -/
theorem eq_zero_of_head? {n : Nat} (h : (Nat.toDigits 10 n).head? = some '0') : n = 0 := by
  induction n using Nat.strongRecOn with
  | ind n ih =>
      rw [Nat.toDigits_eq_if (by decide)] at h
      split at h
      · next hlt =>
          have hdigit := Nat.toNat_digitChar_sub_48_of_lt_ten hlt
          rw [Option.some.inj h] at hdigit
          exact hdigit.symm
      · next hlt =>
          have hsome := List.isSome_head?.mpr (Nat.toDigits_ne_nil (n := n / 10) (b := 10))
          rw [List.head?_append, Option.or_of_isSome hsome] at h
          have hzero := ih (n / 10) (by omega) h
          omega

theorem isDigit_of_mem_toDigits {n : Nat} : ∀ c ∈ Nat.toDigits 10 n, isDigit c = true :=
  fun _ hc => Nat.isDigit_of_mem_toDigits (by decide) (by decide) hc

/-- **A whole number of 64 bits** is read from its digits. -/
theorem scanNumber_toDigits {n : Nat} (hn : n ≤ maxWord) (rest : List Char) (strict : Bool) :
    scanNumber strict (Nat.toDigits 10 n ++ ',' :: rest) = .ok (.int n, ',' :: rest) := by
  have hpush : pushDigits maxWord 0 (Nat.toDigits 10 n) = (n, []) := by
    have hvalue := Nat.ofDigitChars_toDigits (b := 10) (n := n) (by decide) (by decide)
    rw [pushDigits_eq (by rwa [hvalue]), hvalue]
  have htake : (Nat.toDigits 10 n ++ ',' :: rest).takeWhile isDigit = Nat.toDigits 10 n := by
    rw [List.takeWhile_append_of_pos isDigit_of_mem_toDigits]
    exact List.append_nil _
  have hdrop : (Nat.toDigits 10 n ++ ',' :: rest).dropWhile isDigit = ',' :: rest := by
    rw [List.dropWhile_append_of_pos isDigit_of_mem_toDigits]
    rfl
  have hzero := @eq_zero_of_head? n
  cases hdigits : Nat.toDigits 10 n with
  | nil => exact absurd hdigits Nat.toDigits_ne_nil
  | cons d ds =>
      have hd : isDigit d = true := isDigit_of_mem_toDigits d (hdigits ▸ List.mem_cons_self)
      rw [hdigits] at hpush htake hdrop hzero
      rw [List.cons_append] at htake hdrop ⊢
      -- A number of several digits does not begin with a zero.
      have hlead : (decide (d = '0') && decide ((ds ++ ',' :: rest).takeWhile isDigit ≠ [])) =
          false := by
        by_cases hd0 : d = '0'
        · obtain rfl := hzero (by rw [hd0]; rfl)
          cases hdigits
          rfl
        · rw [decide_eq_false hd0, Bool.false_and]
      rw [scanNumber]
      · simp only [hd, htake, hdrop, hpush, hlead]
        rfl
      · intro r heq
        rw [(List.cons.inj heq).1] at hd
        cases hd

theorem leaves_scanValue_number {depth n : Nat} (hn : n ≤ maxWord) (rest : List Char) :
    (scanValue depth (Nat.toDigits 10 n ++ ',' :: rest)).Leaves
      (.number (.int n) ⟨before (Nat.toDigits 10 n ++ ',' :: rest), before (',' :: rest)⟩)
      (',' :: rest) := by
  have hscan := scanNumber_toDigits hn rest true
  cases hdigits : Nat.toDigits 10 n with
  | nil => exact absurd hdigits Nat.toDigits_ne_nil
  | cons d ds =>
      have hd : isDigit d = true := isDigit_of_mem_toDigits d (hdigits ▸ List.mem_cons_self)
      have hother : ∀ c, isDigit c = false → d ≠ c := by
        rintro c hc rfl
        rw [hd] at hc
        cases hc
      have hspace : isSpace d = false := by
        simp [isSpace, hother ' ' rfl, hother '\n' rfl, hother '\t' rfl, hother '\r' rfl]
      rw [hdigits, List.cons_append] at hscan
      rw [List.cons_append, scanValue]
      split
      · next hskip => exact absurd hskip (skipSpace_cons_ne_nil hspace _)
      · next c r hskip =>
          obtain ⟨rfl, rfl⟩ := eq_of_skipSpace_cons hspace hskip
          rw [if_neg (hother _ rfl), if_neg (hother _ rfl), if_neg (hother _ rfl),
            if_neg (hother _ rfl), if_pos (by simp [hd]), scanNumberNode, hscan]
          refine Part.leaves_upTo _ ?_
          simp only [List.length_cons, List.length_append]
          omega

/-! ## Objects -/

theorem leaves_scanValue_object {depth : Nat} {r rest : List Char} {members : Members}
    (h : (scanMembers (depth + 1) true r).Leaves members rest) :
    (scanValue depth ('\x7b' :: r)).Leaves
      (.object (before ('\x7b' :: r)) (depthLimit ≤ depth + 1) members) rest := by
  rw [scanValue]
  split
  · next hskip => exact absurd hskip (skipSpace_cons_ne_nil (by decide) _)
  · next c r hskip =>
      obtain ⟨rfl, rfl⟩ := eq_of_skipSpace_cons (by decide) hskip
      have hrest := h.within (Nat.le_succ r.length)
      exact ⟨by rw [← h.made_eq]; rfl, hrest.rest_eq⟩

theorem leaves_scanMembers_done {depth : Nat} {first : Bool} (r : List Char) :
    (scanMembers depth first ('\x7d' :: r)).Leaves (.done (before r)) r := by
  rw [scanMembers]
  split
  · next hskip => exact absurd hskip (skipSpace_cons_ne_nil (by decide) _)
  · next c r hskip =>
      obtain ⟨rfl, rfl⟩ := eq_of_skipSpace_cons (by decide) hskip
      exact Part.leaves_upTo _ (Nat.lt_succ_self _)

theorem leaves_scanMembers_first {depth : Nat} {r rest : List Char} {members : Members}
    (h : (scanMember depth r).Leaves members rest) :
    (scanMembers depth true ('"' :: r)).Leaves members rest := by
  rw [scanMembers]
  split
  · next hskip => exact absurd hskip (skipSpace_cons_ne_nil (by decide) _)
  · next c r hskip =>
      obtain ⟨rfl, rfl⟩ := eq_of_skipSpace_cons (by decide) hskip
      exact h.within (Nat.le_succ r.length)

theorem leaves_scanMembers_next {depth : Nat} {r rest : List Char} {members : Members}
    (h : (scanMember depth r).Leaves members rest) :
    (scanMembers depth false (',' :: '"' :: r)).Leaves members rest := by
  rw [scanMembers]
  split
  · next hskip => exact absurd hskip (skipSpace_cons_ne_nil (by decide) _)
  · next c r' hskip =>
      obtain ⟨rfl, rfl⟩ := eq_of_skipSpace_cons (by decide) hskip
      rw [if_neg (by decide), if_neg Bool.false_ne_true, if_pos rfl]
      dsimp only
      split
      · next hskip => exact absurd hskip (skipSpace_cons_ne_nil (by decide) _)
      · next c r' hskip =>
          obtain ⟨rfl, rfl⟩ := eq_of_skipSpace_cons (by decide) hskip
          rw [if_pos rfl]
          exact h.within _

/-- A member whose key has no escapes, with no space around the colon. -/
theorem leaves_scanMember {depth : Nat} {name r rest rest' : List Char} {value : Node}
    {members : Members} (hname : ∀ c ∈ name, StandsForItself c)
    (hvalue : (scanValue depth r).Leaves value rest)
    (hmembers : (scanMembers depth false rest).Leaves members rest') :
    (scanMember depth (name ++ '"' :: ':' :: r)).Leaves
      (.member ⟨String.ofList name, none, before (':' :: r), closeObject (':' :: r)⟩ value
        (closeObject rest) members) rest' := by
  have hkey : scanKey (name ++ '"' :: ':' :: r) =
      (⟨String.ofList name, none, before (':' :: r), closeObject (':' :: r)⟩, ':' :: r) := by
    rw [scanKey, scanString_append hname]
    rfl
  obtain ⟨hmade, hrest⟩ := hvalue
  obtain ⟨left, hleft, rfl⟩ := Option.map_eq_some_iff.mp hrest
  rw [scanMember]
  simp only [hkey]
  split
  · split
    · next hskip =>
        rw [hkey] at hskip
        exact absurd hskip (skipSpace_cons_ne_nil (by decide) r)
    · next c r' hskip =>
        rw [hkey] at hskip
        obtain ⟨rfl, rfl⟩ := eq_of_skipSpace_cons (by decide) hskip
        rw [if_pos rfl]
        -- The value is there, so the scan goes on to the members behind it.
        split
        · next hnone =>
            rw [hleft] at hnone
            cases hnone
        · next left' hlt hsome =>
            obtain rfl := Option.some.inj (hleft.symm.trans hsome)
            refine ⟨?_, ?_⟩
            · rw [hmade, hmembers.made_eq]
            · rw [← hmembers.rest_eq]
              exact Option.map_map _ _ _
  · next hlong =>
      rw [List.length_append] at hlong
      simp only [List.length_cons] at hlong
      omega

/-- A text that is scanned whole. -/
theorem scan_eq {cs : List Char} {node : Node} (h : (scanValue 0 cs).Leaves node []) :
    scan cs = ⟨node, none⟩ := by
  obtain ⟨hmade, hrest⟩ := h
  obtain ⟨⟨_, hlt⟩, hleft, rfl⟩ := Option.map_eq_some_iff.mp hrest
  rw [scan]
  simp only [hleft, hmade]
  rfl

/-! ## Blank texts -/

theorem isDigit_of_isBlank {c : Char} (h : Text.isBlank c = true) : isDigit c = false := by
  apply Bool.eq_false_iff.mpr
  intro hdigit
  simp only [isDigit, Bool.and_eq_true, decide_eq_true_eq, Char.le_def,
    UInt32.le_iff_toNat_le] at hdigit
  have hlow : 48 ≤ c.toNat := hdigit.1
  have hhigh : c.toNat ≤ 57 := hdigit.2
  simp only [Text.isBlank, Bool.or_eq_true, Bool.and_eq_true, decide_eq_true_eq, beq_iff_eq] at h
  omega

/-- Where nothing but blanks stand, no value can be made out. -/
theorem exists_gap_of_blank {cs : List Char} (h : Text.allBlank cs = true) (depth : Nat) :
    ∃ g, (scanValue depth cs).made = .gap g := by
  rw [scanValue]
  split
  · exact ⟨_, rfl⟩
  · next c r hskip =>
      have hmem : c ∈ cs := by
        apply (List.dropWhile_suffix isSpace).subset
        show c ∈ skipSpace cs
        rw [hskip]
        exact List.mem_cons_self
      have hblank : Text.isBlank c = true := List.all_eq_true.mp h c hmem
      have hne : ∀ d, Text.isBlank d = false → c ≠ d := by
        intro d hd hcd
        rw [hcd, hd] at hblank
        cases hblank
      rw [if_neg (hne _ (by decide)), if_neg (hne _ (by decide)), if_neg (hne _ (by decide)),
        if_neg (hne _ (by decide)),
        if_neg (by simp [hne '-' (by decide), isDigit_of_isBlank hblank]),
        if_neg (hne _ (by decide)), if_neg (hne _ (by decide))]
      exact ⟨_, rfl⟩

/-- A blank text has no value. -/
theorem parse_of_blank {text : String} (h : Text.isBlankText text = true) :
    ∃ message, parse text = .error message := by
  obtain ⟨g, hgap⟩ := exists_gap_of_blank h 0
  have hroot : (scan text.toList).root = .gap g := hgap
  refine ⟨g.reading.message text.toList, ?_⟩
  simp only [parse, readText, hroot, Node.value]

end ToolAgent.Json
