/-!
# UTF-8

Characters as bytes and back. `encode` writes the bytes of a text; `scan` reads bytes as a list of
*pieces*, each a character or a maximal ill-formed run. A text whose bytes are all well formed is
read by `decode?`; `decodeLossy` puts U+FFFD for each ill-formed run.

An ill-formed run is the longest start of a well-formed sequence that the bytes go on with, or one
byte where no sequence starts.
-/

namespace ToolAgent

/-- A sequence of bytes. -/
abbrev Bytes := List UInt8

namespace Utf8

/-- The bytes of a text. -/
def encode (cs : List Char) : Bytes := cs.flatMap String.utf8EncodeChar

/-- How many bytes a text takes. -/
def size (cs : List Char) : Nat := cs.foldr (fun c n => c.utf8Size + n) 0

/-! ### Reading -/

/-- What stands at one place of a byte sequence. -/
inductive Piece
  | char (c : Char)
  | illFormed
deriving DecidableEq, Repr

/-- The character that a piece is shown as. -/
def Piece.toChar : Piece → Char
  | .char c => c
  | .illFormed => '\uFFFD'

/-- The character that a piece is, if it is one. -/
def Piece.char? : Piece → Option Char
  | .char c => some c
  | .illFormed => none

/-- A continuation byte. -/
def isTail (b : UInt8) : Bool := 0x80 ≤ b.toNat && b.toNat ≤ 0xBF

/-- Whether `b` may follow the first byte `a` of a sequence of three or four bytes. -/
def secondFits (a b : UInt8) : Bool :=
  let n := b.toNat
  match a.toNat with
  | 0xE0 => 0xA0 ≤ n && n ≤ 0xBF
  | 0xED => 0x80 ≤ n && n ≤ 0x9F
  | 0xF0 => 0x90 ≤ n && n ≤ 0xBF
  | 0xF4 => 0x80 ≤ n && n ≤ 0x8F
  | _ => isTail b

/-- The low six bits of a continuation byte. -/
def low (b : UInt8) : Nat := b.toNat % 0x40

/-- The piece that a non-empty sequence starts with, and how many bytes after the first one belong
to it. -/
def headPiece (a : UInt8) (rest : Bytes) : Piece × Nat :=
  let n := a.toNat
  if n < 0x80 then (.char (Char.ofNat n), 0)
  else if n < 0xC2 then (.illFormed, 0)
  else if n < 0xE0 then
    match rest with
    | b :: _ => if isTail b then (.char (Char.ofNat ((n - 0xC0) * 64 + low b)), 1)
      else (.illFormed, 0)
    | [] => (.illFormed, 0)
  else if n < 0xF0 then
    match rest with
    | b :: r =>
      if secondFits a b then
        match r with
        | c :: _ =>
          if isTail c then
            (.char (Char.ofNat ((n - 0xE0) * 4096 + low b * 64 + low c)), 2)
          else (.illFormed, 1)
        | [] => (.illFormed, 1)
      else (.illFormed, 0)
    | [] => (.illFormed, 0)
  else if n < 0xF5 then
    match rest with
    | b :: r =>
      if secondFits a b then
        match r with
        | c :: r' =>
          if isTail c then
            match r' with
            | d :: _ =>
              if isTail d then
                (.char (Char.ofNat ((n - 0xF0) * 262144 + low b * 4096 + low c * 64 + low d)), 3)
              else (.illFormed, 2)
            | [] => (.illFormed, 2)
          else (.illFormed, 1)
        | [] => (.illFormed, 1)
      else (.illFormed, 0)
    | [] => (.illFormed, 0)
  else (.illFormed, 0)

/-- The pieces of a byte sequence. -/
def scan : Bytes → List Piece
  | [] => []
  | a :: rest => (headPiece a rest).1 :: scan (rest.drop (headPiece a rest).2)
termination_by bs => bs.length
decreasing_by simp only [List.length_drop, List.length_cons]; omega

/-- The text whose bytes these are, if they are well formed. -/
def decode? (bs : Bytes) : Option (List Char) := (scan bs).mapM Piece.char?

/-- The text with U+FFFD for each ill-formed run. -/
def decodeLossy (bs : Bytes) : List Char := (scan bs).map Piece.toChar

/-- The bytes of a string. -/
def ofString (s : String) : Bytes := encode s.toList

/-- The string whose bytes these are. -/
def toString? (bs : Bytes) : Option String := (decode? bs).map String.ofList

/-- The string with U+FFFD for each ill-formed run. -/
def toStringLossy (bs : Bytes) : String := String.ofList (decodeLossy bs)

/-- How many bytes a string takes. -/
def sizeOf (s : String) : Nat := size s.toList

/-! ### Boundaries -/

/-- Whether a character of a text begins at byte `i`, or the text ends there. -/
def isBoundary (bytes : Bytes) (i : Nat) : Bool :=
  i == 0 ||
    match bytes[i]? with
    | some b => !isTail b
    | none => i == bytes.length

/-- The last boundary up to byte `i`, looked for by going back byte by byte; none if that leads
below zero. -/
def boundaryUpTo? (bytes : Bytes) : Nat → Option Nat
  | 0 => if isBoundary bytes 0 then some 0 else none
  | i + 1 => if isBoundary bytes (i + 1) then some (i + 1) else boundaryUpTo? bytes i

/-- The text before byte `i`; none if `i` is no boundary. -/
def before? (bytes : Bytes) (i : Nat) : Option String :=
  if isBoundary bytes i then some (toStringLossy (bytes.take i)) else none

theorem isBoundary_zero (bytes : Bytes) : isBoundary bytes 0 = true := rfl

/-- Going back ends at a boundary, at byte zero if not before. -/
theorem exists_boundaryUpTo? (bytes : Bytes) (i : Nat) :
    ∃ stop, boundaryUpTo? bytes i = some stop ∧ isBoundary bytes stop = true := by
  induction i with
  | zero => exact ⟨0, if_pos (isBoundary_zero bytes), isBoundary_zero bytes⟩
  | succ i ih =>
    rw [boundaryUpTo?]
    split
    · next h => exact ⟨i + 1, rfl, h⟩
    · exact ih

end Utf8

end ToolAgent
