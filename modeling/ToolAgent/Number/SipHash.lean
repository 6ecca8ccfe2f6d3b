/-!
# SipHash

A hash of 64 bits for texts, with one round for each word of the message and three at the end.
-/

namespace ToolAgent.SipHash

/-- The state of the hash. -/
structure State where
  v0 : UInt64
  v1 : UInt64
  v2 : UInt64
  v3 : UInt64
deriving DecidableEq, Repr

/-- The bits of a word turned to the left. -/
def rotate (x : UInt64) (n : UInt64) : UInt64 := (x <<< n) ||| (x >>> (64 - n))

namespace State

/-- The state before the first word, for a key of two words. -/
def start (k0 k1 : UInt64) : State :=
  ⟨k0 ^^^ 0x736f6d6570736575, k1 ^^^ 0x646f72616e646f6d, k0 ^^^ 0x6c7967656e657261,
    k1 ^^^ 0x7465646279746573⟩

/-- One round of mixing. -/
def round (s : State) : State :=
  let v0 := s.v0 + s.v1
  let v1 := rotate s.v1 13 ^^^ v0
  let v0 := rotate v0 32
  let v2 := s.v2 + s.v3
  let v3 := rotate s.v3 16 ^^^ v2
  let v0 := v0 + v3
  let v3 := rotate v3 21 ^^^ v0
  let v2 := v2 + v1
  let v1 := rotate v1 17 ^^^ v2
  let v2 := rotate v2 32
  ⟨v0, v1, v2, v3⟩

/-- Takes in one word. -/
def absorb (s : State) (word : UInt64) : State :=
  let s := { s with v3 := s.v3 ^^^ word }.round
  { s with v0 := s.v0 ^^^ word }

/-- The hash. -/
def finish (s : State) : UInt64 :=
  let s := { s with v2 := s.v2 ^^^ 0xff }.round.round.round
  s.v0 ^^^ s.v1 ^^^ s.v2 ^^^ s.v3

end State

/-- A word of bytes, the lowest first. -/
def word : List UInt8 → UInt64
  | [] => 0
  | b :: bs => b.toUInt64 ||| (word bs <<< 8)

/-- The words of a message; the last one carries the length in its highest byte. -/
def wordsOf (length : Nat) (bs : List UInt8) : List UInt64 :=
  match bs with
  | a :: b :: c :: d :: e :: f :: g :: h :: rest =>
    word [a, b, c, d, e, f, g, h] :: wordsOf length rest
  | bs => [word bs ||| (UInt64.ofNat length <<< 56)]

/-- The hash of a message under a key. -/
def hash (k0 k1 : UInt64) (message : List UInt8) : UInt64 :=
  ((wordsOf message.length message).foldl State.absorb (.start k0 k1)).finish

end ToolAgent.SipHash
