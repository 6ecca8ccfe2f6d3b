import Mathlib
import ToolAgent.Text.Utf8

/-!
# UTF-8, whole and in parts

* `decodeLossy_encode`: the bytes of a text decode to the text.
* `Apart p q`: no piece of `p ++ q` begins in `p` and ends in `q`. If so, `p ++ q` is read as `p`
  and `q` are (`scan_append`); otherwise it is read as fewer pieces (`length_scan_append_lt`).
* `flatMap_decodeLossy_eq_iff`: to decode every part by itself is to decode the whole exactly if
  there are `WholeCuts` only.
-/

namespace ToolAgent.Utf8

/-! ## The first piece -/

theorem isTail_iff {b : UInt8} : isTail b = true ↔ 0x80 ≤ b.toNat ∧ b.toNat ≤ 0xBF := by
  simp only [isTail, Bool.and_eq_true, decide_eq_true_eq]

/-- A second byte is a continuation byte, and four first bytes take only some of them. -/
theorem secondFits_iff {a b : UInt8} : secondFits a b = true ↔
    (0x80 ≤ b.toNat ∧ b.toNat ≤ 0xBF) ∧
      (a.toNat = 0xE0 → 0xA0 ≤ b.toNat) ∧ (a.toNat = 0xED → b.toNat ≤ 0x9F) ∧
      (a.toNat = 0xF0 → 0x90 ≤ b.toNat) ∧ (a.toNat = 0xF4 → b.toNat ≤ 0x8F) := by
  unfold secondFits
  split <;> simp_all [isTail_iff] <;> omega

theorem isTail_of_secondFits {a b : UInt8} (h : secondFits a b = true) : isTail b = true :=
  isTail_iff.mpr (secondFits_iff.mp h).1

theorem ascii_of_all {bs : Bytes} (h : bs.all (fun a => decide (a.toNat < 0x80)) = true) :
    ∀ a ∈ bs, a.toNat < 0x80 :=
  fun a ha => of_decide_eq_true (List.all_eq_true.mp h a ha)

theorem headPiece_ascii {a : UInt8} (ha : a.toNat < 0x80) (rest : Bytes) :
    headPiece a rest = (.char (Char.ofNat a.toNat), 0) := by
  simp only [headPiece]
  exact if_pos ha

/-- A continuation byte starts nothing. -/
theorem headPiece_tail {a : UInt8} (ha : isTail a = true) (rest : Bytes) :
    headPiece a rest = (.illFormed, 0) := by
  have hrange := isTail_iff.mp ha
  simp only [headPiece]
  rw [if_neg (by omega), if_pos (by omega)]

theorem headPiece_le (a : UInt8) (rest : Bytes) : (headPiece a rest).2 ≤ rest.length := by
  unfold headPiece
  -- A piece is told by three more bytes at most.
  rcases rest with _ | ⟨b, _ | ⟨c, _ | ⟨d, rest⟩⟩⟩ <;> grind

/-- All bytes of a piece but the first are continuation bytes. -/
theorem isTail_of_mem_take {a b : UInt8} {rest : Bytes} (hb : b ∈ rest.take (headPiece a rest).2) :
    isTail b = true := by
  unfold headPiece at hb
  rcases rest with _ | ⟨b, _ | ⟨c, _ | ⟨d, rest⟩⟩⟩ <;> grind [isTail_of_secondFits]

/-- A piece does not depend on what follows it. -/
theorem headPiece_append {a : UInt8} {rest more : Bytes}
    (h : (headPiece a (rest ++ more)).2 ≤ rest.length) :
    headPiece a (rest ++ more) = headPiece a rest := by
  unfold headPiece at h ⊢
  rcases rest with _ | ⟨b, _ | ⟨c, _ | ⟨d, rest⟩⟩⟩ <;> grind

/-- The start of a piece is one ill-formed run. -/
theorem headPiece_of_lt {a : UInt8} {rest more : Bytes}
    (h : rest.length < (headPiece a (rest ++ more)).2) :
    headPiece a rest = (.illFormed, rest.length) := by
  unfold headPiece at h ⊢
  rcases rest with _ | ⟨b, _ | ⟨c, _ | ⟨d, rest⟩⟩⟩ <;> grind

/-! ### The bytes of a character -/

theorem headPiece_two {a b : UInt8} (hlow : 0xC2 ≤ a.toNat) (hhigh : a.toNat < 0xE0)
    (hb : isTail b = true) (rest : Bytes) :
    headPiece a (b :: rest) = (.char (Char.ofNat ((a.toNat - 0xC0) * 64 + low b)), 1) := by
  simp only [headPiece]
  rw [if_neg (by omega), if_neg (by omega), if_pos (by omega), if_pos hb]

theorem headPiece_three {a b c : UInt8} (hlow : 0xE0 ≤ a.toNat) (hhigh : a.toNat < 0xF0)
    (hb : secondFits a b = true) (hc : isTail c = true) (rest : Bytes) :
    headPiece a (b :: c :: rest) =
      (.char (Char.ofNat ((a.toNat - 0xE0) * 4096 + low b * 64 + low c)), 2) := by
  simp only [headPiece]
  rw [if_neg (by omega), if_neg (by omega), if_neg (by omega), if_pos (by omega), if_pos hb,
    if_pos hc]

theorem headPiece_four {a b c d : UInt8} (hlow : 0xF0 ≤ a.toNat) (hhigh : a.toNat < 0xF5)
    (hb : secondFits a b = true) (hc : isTail c = true) (hd : isTail d = true) (rest : Bytes) :
    headPiece a (b :: c :: d :: rest) =
      (.char (Char.ofNat ((a.toNat - 0xF0) * 262144 + low b * 4096 + low c * 64 + low d)), 3) := by
  simp only [headPiece]
  rw [if_neg (by omega), if_neg (by omega), if_neg (by omega), if_neg (by omega),
    if_pos (by omega), if_pos hb, if_pos hc, if_pos hd]

theorem toNat_ofNat_tail (n : Nat) : (UInt8.ofNat (n % 64 + 128)).toNat = n % 64 + 128 := by
  rw [UInt8.toNat_ofNat']
  omega

theorem isTail_ofNat (n : Nat) : isTail (UInt8.ofNat (n % 64 + 128)) = true := by
  rw [isTail_iff, toNat_ofNat_tail]
  omega

theorem low_ofNat (n : Nat) : low (UInt8.ofNat (n % 64 + 128)) = n % 64 := by
  rw [low, toNat_ofNat_tail]
  omega

/-- The bytes of a character are one, with the same number, or not ASCII. -/
theorem toNat_of_mem_utf8EncodeChar {c : Char} {b : UInt8} (h : b ∈ String.utf8EncodeChar c) :
    b.toNat = c.toNat ∨ 0x80 ≤ b.toNat := by
  have htail : ∀ n, 0x80 ≤ (UInt8.ofNat (n % 64 + 128)).toNat := fun n => by
    rw [toNat_ofNat_tail]
    omega
  simp only [String.utf8EncodeChar, Char.toNat_val] at h
  split at h
  · obtain rfl := List.mem_singleton.mp h
    rw [UInt8.toNat_ofNat']
    omega
  -- All the other bytes have their highest bit set.
  · right
    split at h
    · simp only [List.mem_cons, List.not_mem_nil, or_false] at h
      rcases h with rfl | rfl
      · rw [UInt8.toNat_ofNat']
        omega
      · exact htail _
    · split at h
      all_goals
        simp only [List.mem_cons, List.not_mem_nil, or_false] at h
        rcases h with rfl | h
        · rw [UInt8.toNat_ofNat']
          omega
        · rcases h with rfl | rfl | rfl <;> exact htail _

/-- The bytes of a character are read as the character, whatever follows. -/
theorem headPiece_utf8EncodeChar (c : Char) :
    ∃ a tail, String.utf8EncodeChar c = a :: tail ∧
      ∀ rest, headPiece a (tail ++ rest) = (.char c, tail.length) := by
  have hvalid : c.toNat < 0xD800 ∨ 0xDFFF < c.toNat ∧ c.toNat < 0x110000 := c.valid
  have hc : ∀ n, n = c.toNat → Char.ofNat n = c := fun n hn => hn ▸ Char.ofNat_toNat c
  simp only [String.utf8EncodeChar, Char.toNat_val]
  -- One case for each length: the bits that are put into the bytes are those that are taken out.
  split
  · have ha : (UInt8.ofNat c.toNat).toNat = c.toNat := by
      rw [UInt8.toNat_ofNat']
      omega
    refine ⟨_, _, rfl, fun rest => ?_⟩
    rw [headPiece_ascii (by omega), hc _ ha]
    rfl
  split
  · have ha : (UInt8.ofNat (c.toNat / 64 % 32 + 192)).toNat = c.toNat / 64 % 32 + 192 := by
      rw [UInt8.toNat_ofNat']
      omega
    refine ⟨_, _, rfl, fun rest => ?_⟩
    rw [List.singleton_append, headPiece_two (by omega) (by omega) (isTail_ofNat _), ha, low_ofNat,
      hc _ (by omega)]
    rfl
  split
  · have ha : (UInt8.ofNat (c.toNat / 4096 % 16 + 224)).toNat = c.toNat / 4096 % 16 + 224 := by
      rw [UInt8.toNat_ofNat']
      omega
    have hfits : secondFits (UInt8.ofNat (c.toNat / 4096 % 16 + 224))
        (UInt8.ofNat (c.toNat / 64 % 64 + 128)) = true := by
      rw [secondFits_iff, ha, toNat_ofNat_tail]
      omega
    refine ⟨_, _, rfl, fun rest => ?_⟩
    rw [List.cons_append, List.singleton_append,
      headPiece_three (by omega) (by omega) hfits (isTail_ofNat _), ha, low_ofNat, low_ofNat,
      hc _ (by omega)]
    rfl
  · have ha : (UInt8.ofNat (c.toNat / 262144 % 8 + 240)).toNat = c.toNat / 262144 % 8 + 240 := by
      rw [UInt8.toNat_ofNat']
      omega
    have hfits : secondFits (UInt8.ofNat (c.toNat / 262144 % 8 + 240))
        (UInt8.ofNat (c.toNat / 4096 % 64 + 128)) = true := by
      rw [secondFits_iff, ha, toNat_ofNat_tail]
      omega
    refine ⟨_, _, rfl, fun rest => ?_⟩
    rw [List.cons_append, List.cons_append, List.singleton_append,
      headPiece_four (by omega) (by omega) hfits (isTail_ofNat _) (isTail_ofNat _), ha, low_ofNat,
      low_ofNat, low_ofNat, hc _ (by omega)]
    rfl

/-- Only a byte below 0x80 is read as a character below U+0080. -/
theorem le_toNat_headPiece {a : UInt8} (ha : 0x80 ≤ a.toNat) (rest : Bytes) :
    0x80 ≤ (headPiece a rest).1.toChar.toNat := by
  have hill : 0x80 ≤ Piece.illFormed.toChar.toNat := by decide
  fun_cases headPiece a rest
  case case1 n hn => exact absurd ha (Nat.not_le.mpr hn)
  case case3 n _ hlow _ b _ _ =>
      simp only [low]
      rw [Piece.toChar, Char.toNat_ofNat, if_pos (by omega)]
      omega
  case case6 n _ _ hlow hhigh b hfits c _ _ =>
      have hsecond := secondFits_iff.mp hfits
      simp only [low]
      rw [Piece.toChar, Char.toNat_ofNat, if_pos (by omega)]
      omega
  case case11 n _ _ _ hlow hhigh b hfits c _ d _ _ =>
      have hsecond := secondFits_iff.mp hfits
      simp only [low]
      rw [Piece.toChar, Char.toNat_ofNat, if_pos (by omega)]
      omega
  all_goals exact hill

/-! ## All pieces -/

theorem scan_nil : scan [] = [] := by rw [scan]

theorem scan_cons (a : UInt8) (rest : Bytes) :
    scan (a :: rest) = (headPiece a rest).1 :: scan (rest.drop (headPiece a rest).2) := by
  rw [scan]

theorem decodeLossy_nil : decodeLossy [] = [] := by rw [decodeLossy, scan_nil, List.map_nil]

theorem decodeLossy_eq_nil_iff {bs : Bytes} : decodeLossy bs = [] ↔ bs = [] := by
  cases bs with
  | nil => exact iff_of_true decodeLossy_nil rfl
  | cons a rest =>
      rw [decodeLossy, scan_cons, List.map_cons]
      exact iff_of_false (List.cons_ne_nil _ _) (List.cons_ne_nil _ _)

theorem encode_cons (c : Char) (cs : List Char) :
    encode (c :: cs) = String.utf8EncodeChar c ++ encode cs := List.flatMap_cons

/-- An ASCII byte of a text is one of its characters. -/
theorem exists_of_mem_encode {cs : List Char} {b : UInt8} (h : b ∈ encode cs)
    (hascii : b.toNat < 0x80) : ∃ c ∈ cs, c.toNat = b.toNat := by
  obtain ⟨c, hc, hb⟩ := List.mem_flatMap.mp h
  rcases toNat_of_mem_utf8EncodeChar hb with heq | hhigh
  · exact ⟨c, hc, heq.symm⟩
  · omega

theorem scan_encode (cs : List Char) : scan (encode cs) = cs.map .char := by
  induction cs with
  | nil => exact scan_nil
  | cons c cs ih =>
      obtain ⟨a, tail, hbytes, hhead⟩ := headPiece_utf8EncodeChar c
      rw [encode_cons, hbytes, List.cons_append, scan_cons, hhead, List.drop_left, ih,
        List.map_cons]

/-- **The bytes of a text decode to the text.** -/
theorem decodeLossy_encode (cs : List Char) : decodeLossy (encode cs) = cs := by
  rw [decodeLossy, scan_encode, List.map_map]
  exact List.map_id cs

theorem decode?_encode (cs : List Char) : decode? (encode cs) = some cs := by
  rw [decode?, scan_encode]
  induction cs with
  | nil => rfl
  | cons c cs ih =>
      rw [List.map_cons, List.mapM_cons, ih]
      rfl

theorem length_scan_tails {tails : Bytes} (h : ∀ b ∈ tails, isTail b = true) (bs : Bytes) :
    (scan (tails ++ bs)).length = tails.length + (scan bs).length := by
  induction tails with
  | nil => rw [List.nil_append, List.length_nil, Nat.zero_add]
  | cons b tails ih =>
      obtain ⟨hb, htails⟩ := List.forall_mem_cons.mp h
      rw [List.cons_append, scan_cons, headPiece_tail hb, List.drop_zero, List.length_cons,
        ih htails, List.length_cons]
      omega

theorem mem_of_mem_decodeLossy {bs : Bytes} {c : Char} (hc : c ∈ decodeLossy bs)
    (hascii : c.toNat < 0x80) : ∃ b ∈ bs, b.toNat = c.toNat := by
  induction bs using scan.induct with
  | case1 =>
      rw [decodeLossy_nil] at hc
      cases hc
  | case2 a rest ih =>
      rw [decodeLossy, scan_cons, List.map_cons] at hc
      rcases List.mem_cons.mp hc with rfl | hc
      · refine ⟨a, List.mem_cons_self, ?_⟩
        have ha : a.toNat < 0x80 := Nat.lt_of_not_le fun hle =>
          Nat.not_lt.mpr (le_toNat_headPiece hle rest) hascii
        rw [headPiece_ascii ha, Piece.toChar, Char.toNat_ofNat, if_pos (by omega)]
      · obtain ⟨b, hb, heq⟩ := ih hc
        exact ⟨b, List.mem_cons_of_mem _ (List.mem_of_mem_drop hb), heq⟩

/-! ## Two parts -/

/-- No piece of `p ++ q` begins in `p` and ends in `q`. -/
inductive Apart : Bytes → Bytes → Prop
  | nil (q : Bytes) : Apart [] q
  | cons {a : UInt8} {rest q : Bytes} : (headPiece a (rest ++ q)).2 ≤ rest.length →
      Apart (rest.drop (headPiece a (rest ++ q)).2) q → Apart (a :: rest) q

/-- **Parts that are apart are read as they are read by themselves.** -/
theorem scan_append {p q : Bytes} (h : Apart p q) : scan (p ++ q) = scan p ++ scan q := by
  induction h with
  | nil q => rw [scan_nil, List.nil_append, List.nil_append]
  | @cons a rest q hle _ ih =>
      rw [List.cons_append, scan_cons, List.drop_append_of_le_length hle, ih, headPiece_append hle,
        scan_cons a rest, List.cons_append]

/-- **Parts that are not apart are read as fewer pieces.** The piece that goes over the cut ends
with continuation bytes; cut off, its start is a run of its own, and so is each of these. -/
theorem length_scan_append_lt {p q : Bytes} (h : ¬ Apart p q) :
    (scan (p ++ q)).length < (scan p).length + (scan q).length := by
  induction p using scan.induct with
  | case1 => exact absurd (.nil q) h
  | case2 a rest ih =>
      by_cases hle : (headPiece a (rest ++ q)).2 ≤ rest.length
      · have hhead := headPiece_append hle
        have hrest := ih fun hrest => h (.cons hle (hhead ▸ hrest))
        rw [List.cons_append, scan_cons, List.drop_append_of_le_length hle, hhead, scan_cons a rest,
          List.length_cons, List.length_cons]
        omega
      · have hlt := Nat.not_le.mp hle
        have hbound := headPiece_le a (rest ++ q)
        have htails : ∀ b ∈ q.take ((headPiece a (rest ++ q)).2 - rest.length),
            isTail b = true := by
          intro b hb
          have hmem : b ∈ (rest ++ q).take (headPiece a (rest ++ q)).2 := by
            rw [List.take_append]
            exact List.mem_append_right _ hb
          exact isTail_of_mem_take hmem
        -- What the piece takes of `q` is read byte by byte once it is cut off.
        have hq := length_scan_tails htails (q.drop ((headPiece a (rest ++ q)).2 - rest.length))
        rw [List.take_append_drop, List.length_take] at hq
        rw [List.length_append] at hbound
        rw [List.cons_append, scan_cons, List.drop_append,
          List.drop_of_length_le (Nat.le_of_lt hlt), List.nil_append, scan_cons a rest,
          headPiece_of_lt hlt, List.drop_length, scan_nil,
          List.length_cons, List.length_singleton]
        omega

theorem decodeLossy_append {p q : Bytes} (h : Apart p q) :
    decodeLossy (p ++ q) = decodeLossy p ++ decodeLossy q := by
  rw [decodeLossy, scan_append h, List.map_append]
  rfl

theorem length_decodeLossy_append_lt {p q : Bytes} (h : ¬ Apart p q) :
    (decodeLossy (p ++ q)).length < (decodeLossy p).length + (decodeLossy q).length := by
  simp only [decodeLossy, List.length_map]
  exact length_scan_append_lt h

namespace Apart

theorem of_ascii {p : Bytes} (h : ∀ a ∈ p, a.toNat < 0x80) (q : Bytes) : Apart p q := by
  induction p with
  | nil => exact .nil q
  | cons a rest ih =>
      obtain ⟨ha, hrest⟩ := List.forall_mem_cons.mp h
      have hhead := headPiece_ascii ha (rest ++ q)
      refine .cons ?_ ?_
      · rw [hhead]
        exact Nat.zero_le _
      · rw [hhead]
        exact ih hrest

/-- Nothing is cut where no continuation byte comes next. -/
theorem of_not_tail (p : Bytes) {b : UInt8} (hb : isTail b = false) (q : Bytes) :
    Apart p (b :: q) := by
  induction p using scan.induct with
  | case1 => exact .nil _
  | case2 a rest ih =>
      have hle : (headPiece a (rest ++ b :: q)).2 ≤ rest.length := by
        refine Nat.le_of_not_lt fun hlt => ?_
        have hmem : b ∈ (rest ++ b :: q).take (headPiece a (rest ++ b :: q)).2 := by
          rw [List.take_append, List.take_cons (Nat.sub_pos_of_lt hlt)]
          exact List.mem_append_right _ List.mem_cons_self
        have htail := isTail_of_mem_take hmem
        rw [hb] at htail
        cases htail
      refine .cons hle ?_
      rw [headPiece_append hle]
      exact ih

theorem nil_right (p : Bytes) : Apart p [] := by
  induction p using scan.induct with
  | case1 => exact .nil []
  | case2 a rest ih =>
      refine .cons ?_ ?_
      · rw [List.append_nil]
        exact headPiece_le a rest
      · rw [List.append_nil]
        exact ih

theorem left_of_append {p x y : Bytes} (h : Apart p (x ++ y)) : Apart p x := by
  generalize hq : x ++ y = q at h
  induction h with
  | nil => exact .nil x
  | @cons a rest q hle _ ih =>
      subst hq
      have hhead : headPiece a (rest ++ (x ++ y)) = headPiece a (rest ++ x) := by
        rw [← List.append_assoc] at hle ⊢
        exact headPiece_append (by rw [List.length_append]; omega)
      refine .cons ?_ ?_
      · rw [← hhead]
        exact hle
      · rw [← hhead]
        exact ih rfl

/-- Cuts of what comes after a cut are cuts of the whole. -/
theorem append_iff {p x y : Bytes} (h : Apart p (x ++ y)) : Apart (p ++ x) y ↔ Apart x y := by
  generalize hq : x ++ y = q at h
  induction h with
  | nil => rw [List.nil_append]
  | @cons a rest q hle _ ih =>
      subst hq
      have hhead : headPiece a (rest ++ x ++ y) = headPiece a (rest ++ (x ++ y)) := by
        rw [List.append_assoc]
      rw [← ih rfl, ← hhead, ← List.drop_append_of_le_length (by rw [hhead]; exact hle)]
      constructor
      · intro hwhole
        cases hwhole with
        | cons _ hrest => exact hrest
      · intro hrest
        refine .cons ?_ hrest
        change (headPiece a (rest ++ x ++ y)).2 ≤ (rest ++ x).length
        rw [hhead, List.length_append]
        omega

theorem of_encode (cs : List Char) (q : Bytes) : Apart (encode cs) q := by
  induction cs with
  | nil => exact .nil q
  | cons c cs ih =>
      obtain ⟨a, tail, hbytes, hhead⟩ := headPiece_utf8EncodeChar c
      rw [encode_cons, hbytes, List.cons_append]
      refine .cons ?_ ?_
      · rw [List.append_assoc, hhead, List.length_append]
        exact Nat.le_add_right _ _
      · rw [List.append_assoc, hhead, List.drop_left]
        exact ih

/-- A cut of the bytes of a text that goes through no character is a cut of the text. -/
theorem exists_encode {p q : Bytes} {cs : List Char} (h : Apart p q) (hcs : p ++ q = encode cs) :
    ∃ before after, cs = before ++ after ∧ p = encode before ∧ q = encode after := by
  induction cs generalizing p with
  | nil =>
      obtain ⟨rfl, rfl⟩ := List.append_eq_nil_iff.mp hcs
      exact ⟨[], [], rfl, rfl, rfl⟩
  | cons c cs ih =>
      cases h with
      | nil => exact ⟨[], c :: cs, rfl, rfl, hcs⟩
      | @cons a rest _ hle hrest =>
          obtain ⟨first, tail, hbytes, hhead⟩ := headPiece_utf8EncodeChar c
          rw [encode_cons, hbytes, List.cons_append, List.cons_append] at hcs
          obtain ⟨rfl, htail⟩ := List.cons.inj hcs
          rw [htail, hhead] at hle hrest
          have hwithin : tail <+: rest :=
            List.prefix_of_prefix_length_le (htail ▸ List.prefix_append tail _)
              (List.prefix_append rest q) hle
          obtain ⟨rest, rfl⟩ := hwithin
          rw [List.append_assoc] at htail
          rw [List.drop_left] at hrest
          obtain ⟨before, after, rfl, rfl, rfl⟩ := ih hrest (List.append_cancel_left htail)
          exact ⟨c :: before, after, rfl, by rw [encode_cons, hbytes]; rfl, rfl⟩

end Apart

/-! ## Any number of parts -/

/-- No cut between two of the parts goes through a piece of the whole. -/
def WholeCuts (parts : List Bytes) : Prop :=
  ∀ before after, parts = before ++ after → Apart before.flatten after.flatten

theorem wholeCuts_nil : WholeCuts [] := by
  intro before after h
  obtain ⟨rfl, -⟩ := List.append_eq_nil_iff.mp h.symm
  exact .nil _

theorem wholeCuts_cons {part : Bytes} {parts : List Bytes} :
    WholeCuts (part :: parts) ↔ Apart part parts.flatten ∧ WholeCuts parts := by
  constructor
  · intro h
    have hfirst : Apart part parts.flatten := by
      have hcut := h [part] parts rfl
      rwa [List.flatten_singleton] at hcut
    refine ⟨hfirst, ?_⟩
    rintro before after rfl
    rw [List.flatten_append] at hfirst
    exact hfirst.append_iff.mp (h (part :: before) after rfl)
  · rintro ⟨hfirst, hparts⟩ before after h
    rcases List.cons_eq_append_iff.mp h with ⟨rfl, -⟩ | ⟨before, rfl, rfl⟩
    · exact .nil _
    · rw [List.flatten_append] at hfirst
      exact hfirst.append_iff.mpr (hparts before after rfl)

theorem length_decodeLossy_flatten_le (parts : List Bytes) :
    (decodeLossy parts.flatten).length ≤ (parts.flatMap decodeLossy).length := by
  induction parts with
  | nil =>
      rw [List.flatten_nil, decodeLossy_nil]
      exact Nat.le_refl _
  | cons part parts ih =>
      rw [List.flatten_cons, List.flatMap_cons, List.length_append]
      by_cases h : Apart part parts.flatten
      · rw [decodeLossy_append h, List.length_append]
        omega
      · have hlt := length_decodeLossy_append_lt h
        omega

/-- **Decoding in parts is decoding the whole exactly if every cut is between pieces.** A cut
through a piece makes the text longer, and no other cut makes up for it. -/
theorem flatMap_decodeLossy_eq_iff {parts : List Bytes} :
    parts.flatMap decodeLossy = decodeLossy parts.flatten ↔ WholeCuts parts := by
  induction parts with
  | nil =>
      rw [List.flatten_nil, decodeLossy_nil]
      exact ⟨fun _ => wholeCuts_nil, fun _ => rfl⟩
  | cons part parts ih =>
      rw [List.flatten_cons, List.flatMap_cons, wholeCuts_cons, ← ih]
      constructor
      · intro h
        -- A first cut through a piece would make the text longer, whatever the later parts are.
        have hfirst : Apart part parts.flatten := by
          refine Classical.byContradiction fun hcut => ?_
          have hlt := length_decodeLossy_append_lt hcut
          rw [← h, List.length_append] at hlt
          have hle := length_decodeLossy_flatten_le parts
          omega
        rw [decodeLossy_append hfirst] at h
        exact ⟨hfirst, List.append_cancel_left h⟩
      · rintro ⟨hfirst, hparts⟩
        rw [decodeLossy_append hfirst, hparts]

theorem flatMap_decodeLossy_of_ascii {parts : List Bytes} {cs : List Char}
    (hascii : ∀ a ∈ encode cs, a.toNat < 0x80) (h : parts.flatten = encode cs) :
    parts.flatMap decodeLossy = cs := by
  have hwhole : WholeCuts parts := by
    rintro before after rfl
    rw [List.flatten_append] at h
    exact .of_ascii (fun a ha => hascii a (h ▸ List.mem_append_left _ ha)) _
  rw [flatMap_decodeLossy_eq_iff.mpr hwhole, h, decodeLossy_encode]

theorem flatMap_decodeLossy_eq_nil_iff {parts : List Bytes} :
    parts.flatMap decodeLossy = [] ↔ decodeLossy parts.flatten = [] := by
  rw [decodeLossy_eq_nil_iff, List.flatten_eq_nil_iff, List.flatMap_eq_nil_iff]
  exact forall₂_congr fun _ _ => decodeLossy_eq_nil_iff

/-- Parts of `x ++ y` can be taken for parts of `x` and parts of `y` if the cut between `x` and `y`,
seen from any place in `x`, goes through no piece. -/
theorem exists_flatMap_decodeLossy {parts : List Bytes} {x y : Bytes}
    (hxy : ∀ s, s <:+ x → Apart s y) (h : parts.flatten = x ++ y) :
    ∃ xs ys : List Bytes, xs.flatten = x ∧ ys.flatten = y ∧
      parts.flatMap decodeLossy = xs.flatMap decodeLossy ++ ys.flatMap decodeLossy := by
  induction parts generalizing x with
  | nil =>
      obtain ⟨rfl, rfl⟩ := List.append_eq_nil_iff.mp h.symm
      exact ⟨[], [], rfl, rfl, rfl⟩
  | cons part parts ih =>
      rw [List.flatten_cons] at h
      rcases List.append_eq_append_iff.mp h with ⟨x', rfl, hparts⟩ | ⟨y', rfl, rfl⟩
      · obtain ⟨xs, ys, rfl, rfl, hdecoded⟩ :=
          ih (fun s hs => hxy s (hs.trans (List.suffix_append part x'))) hparts
        exact ⟨part :: xs, ys, rfl, rfl, by
          rw [List.flatMap_cons, hdecoded, List.flatMap_cons, List.append_assoc]⟩
      · refine ⟨[x], y' :: parts, List.flatten_singleton, rfl, ?_⟩
        rw [List.flatMap_cons, decodeLossy_append (hxy x List.suffix_rfl).left_of_append,
          List.flatMap_singleton, List.flatMap_cons, List.append_assoc]

end ToolAgent.Utf8
