import ToolAgent.Proofs.Text.Utf8

/-!
# Boundaries of a text

The bytes of a text can be cut where a character begins and at their end, and nowhere else.

* `isBoundary_encode_iff`: the boundaries are the places where the starts of the text end.
* `exists_longestStart`: a longer text has a longest start within a limit, and this start falls
  short of the limit by less than a character.
* `boundaryUpTo?_of_longestStart`: going back from the limit ends where that start does.
-/

namespace ToolAgent.Utf8

variable {cs front : List Char} {bytes : Bytes} {i limit stop : Nat}

/-! ## Sizes -/

theorem size_cons (c : Char) (cs : List Char) : size (c :: cs) = c.utf8Size + size cs := rfl

theorem length_encode (cs : List Char) : (encode cs).length = size cs := by
  induction cs with
  | nil => rfl
  | cons c cs ih => rw [encode_cons, List.length_append, String.length_utf8EncodeChar, ih,
      size_cons]

/-- The bytes of a start of a text are the first bytes of the text. -/
theorem exists_encode_eq_append (h : front <+: cs) :
    ∃ rest, encode cs = encode front ++ encode rest := by
  obtain ⟨rest, rfl⟩ := h
  exact ⟨rest, List.flatMap_append⟩

/-! ## Where the boundaries are -/

/-- The first byte of a character is no continuation byte. -/
theorem exists_utf8EncodeChar_eq_cons (c : Char) :
    ∃ a tail, String.utf8EncodeChar c = a :: tail ∧ isTail a = false := by
  obtain ⟨a, tail, hbytes, hhead⟩ := headPiece_utf8EncodeChar c
  refine ⟨a, tail, hbytes, Bool.eq_false_iff.mpr fun htail => ?_⟩
  cases congrArg Prod.fst ((headPiece_tail htail (tail ++ [])).symm.trans (hhead []))

/-- Bytes that are cut at a boundary are cut through no piece. -/
theorem apart_of_isBoundary (h : isBoundary bytes i = true) :
    i ≤ bytes.length ∧ Apart (bytes.take i) (bytes.drop i) := by
  rw [isBoundary, Bool.or_eq_true, beq_iff_eq] at h
  rcases h with rfl | h
  · exact ⟨Nat.zero_le _, .nil _⟩
  · split at h
    · next b hb =>
      obtain ⟨hlt, rfl⟩ := List.getElem?_eq_some_iff.mp hb
      rw [Bool.not_eq_true'] at h
      refine ⟨Nat.le_of_lt hlt, ?_⟩
      rw [List.drop_eq_getElem_cons hlt]
      exact .of_not_tail _ h _
    · obtain rfl := beq_iff_eq.mp h
      rw [List.drop_length]
      exact ⟨Nat.le_refl _, .nil_right _⟩

/-- A place where the bytes of one text end and those of another begin. -/
theorem isBoundary_append (front rest : List Char) :
    isBoundary (encode front ++ encode rest) (size front) = true := by
  rw [isBoundary, Bool.or_eq_true, ← length_encode]
  refine .inr ?_
  cases rest with
  | nil => simp [encode]
  | cons c rest =>
      obtain ⟨a, tail, hbytes, hfirst⟩ := exists_utf8EncodeChar_eq_cons c
      rw [encode_cons, hbytes]
      simp [hfirst]

/-- **The boundaries of a text are the places where its starts end.** -/
theorem isBoundary_encode_iff :
    isBoundary (encode cs) i = true ↔ ∃ front, front <+: cs ∧ size front = i := by
  constructor
  · intro h
    obtain ⟨hle, hapart⟩ := apart_of_isBoundary h
    obtain ⟨front, rest, rfl, hfront, -⟩ := hapart.exists_encode (List.take_append_drop i _)
    refine ⟨front, List.prefix_append front rest, ?_⟩
    rw [← length_encode, ← hfront, List.length_take, Nat.min_eq_left hle]
  · rintro ⟨front, hfront, rfl⟩
    obtain ⟨rest, hbytes⟩ := exists_encode_eq_append hfront
    rw [hbytes]
    exact isBoundary_append front rest

/-- What stands before the end of a start is that start. -/
theorem before?_encode (h : front <+: cs) :
    before? (encode cs) (size front) = some (String.ofList front) := by
  obtain ⟨rest, hbytes⟩ := exists_encode_eq_append h
  rw [before?, hbytes, if_pos (isBoundary_append front rest), ← length_encode, List.take_left,
    toStringLossy, decodeLossy_encode]

/-- Going back ends at the last boundary. -/
theorem boundaryUpTo?_eq_some (hstop : isBoundary bytes stop = true) (hle : stop ≤ i)
    (hlast : ∀ j, isBoundary bytes j = true → j ≤ i → j ≤ stop) :
    boundaryUpTo? bytes i = some stop := by
  induction i with
  | zero =>
      obtain rfl := Nat.le_zero.mp hle
      exact if_pos hstop
  | succ i ih =>
      rw [boundaryUpTo?]
      split
      · next hhere => rw [Nat.le_antisymm hle (hlast (i + 1) hhere (Nat.le_refl _))]
      · next hhere =>
        have hne : stop ≠ i + 1 := fun heq => hhere (heq ▸ hstop)
        exact ih (by omega) fun j hj hji => hlast j hj (Nat.le_succ_of_le hji)

/-! ## The longest start within a limit -/

/-- `front` is the longest start of a text that takes at most `limit` bytes. -/
structure LongestStart (limit : Nat) (cs front : List Char) : Prop where
  starts : front <+: cs
  fits : size front ≤ limit
  longest : ∀ {other}, other <+: cs → size other ≤ limit → other <+: front

theorem LongestStart.cons {c : Char} (hc : c.utf8Size ≤ limit)
    (h : LongestStart (limit - c.utf8Size) cs front) :
    LongestStart limit (c :: cs) (c :: front) where
  starts := List.cons_prefix_cons.mpr ⟨rfl, h.starts⟩
  fits := by
    have hfits := h.fits
    rw [size_cons]
    omega
  longest := by
    intro other hother hsize
    cases other with
    | nil => exact List.nil_prefix
    | cons d other =>
        obtain ⟨rfl, hmore⟩ := List.cons_prefix_cons.mp hother
        rw [size_cons] at hsize
        exact List.cons_prefix_cons.mpr ⟨rfl, h.longest hmore (by omega)⟩

/-- Nothing fits if the first character does not. -/
theorem LongestStart.nil {c : Char} (hc : limit < c.utf8Size) :
    LongestStart limit (c :: cs) [] where
  starts := List.nil_prefix
  fits := Nat.zero_le _
  longest := by
    intro other hother hsize
    cases other with
    | nil => exact List.nil_prefix
    | cons d other =>
        obtain ⟨rfl, -⟩ := List.cons_prefix_cons.mp hother
        rw [size_cons] at hsize
        omega

/-- **A text above the limit has a longest start within it.** The character after this start does
not fit any more, so at most three bytes are given away. -/
theorem exists_longestStart (h : limit < size cs) :
    ∃ front, LongestStart limit cs front ∧ limit ≤ size front + 3 := by
  induction cs generalizing limit with
  | nil => exact absurd h (Nat.not_lt_zero _)
  | cons c cs ih =>
      have hwidth := c.utf8Size_le_four
      rw [size_cons] at h
      by_cases hc : c.utf8Size ≤ limit
      · have hrest : limit - c.utf8Size < size cs := by omega
        obtain ⟨front, hfront, hnear⟩ := ih hrest
        refine ⟨c :: front, hfront.cons hc, ?_⟩
        rw [size_cons]
        omega
      · refine ⟨[], .nil (Nat.lt_of_not_le hc), ?_⟩
        omega

/-- **Going back from the limit ends where the longest start within it does.** -/
theorem boundaryUpTo?_of_longestStart (h : LongestStart limit cs front) :
    boundaryUpTo? (encode cs) limit = some (size front) := by
  refine boundaryUpTo?_eq_some (isBoundary_encode_iff.mpr ⟨front, h.starts, rfl⟩) h.fits ?_
  intro j hj hle
  obtain ⟨other, hother, rfl⟩ := isBoundary_encode_iff.mp hj
  obtain ⟨rest, hbytes⟩ := exists_encode_eq_append (h.longest hother hle)
  rw [← length_encode front, hbytes, List.length_append, length_encode other]
  exact Nat.le_add_right _ _

end ToolAgent.Utf8
