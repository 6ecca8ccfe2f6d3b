import ToolAgent.Model.Decoder
import ToolAgent.Proofs.Text.Lines
import ToolAgent.Proofs.Text.Utf8

/-!
# What a decoder makes of a body

A decoder takes a body in pieces. What it makes of them depends only on the text of the pieces, each
decoded by itself: `pushAll_eq` and `decode_eq`.
-/

namespace ToolAgent.Decoder

/-! ## The buffer stands aside -/

theorem decodeLine_buffer (d : Decoder) (kept : List Char) (line : List Char) :
    decodeLine { d with buffer := kept } line =
      ((d.decodeLine line).1, { (d.decodeLine line).2 with buffer := kept }) := by
  unfold decodeLine
  dsimp only
  split
  · rfl
  · split
    · next c _ =>
        unfold decodeChunk
        cases c.error <;> rfl
    · rfl

theorem decodeLines_buffer (d : Decoder) (kept : List Char) (lines : List (List Char)) :
    decodeLines { d with buffer := kept } lines =
      ((d.decodeLines lines).1, { (d.decodeLines lines).2 with buffer := kept }) := by
  induction lines generalizing d with
  | nil => rfl
  | cons line lines ih =>
      rw [decodeLines, decodeLine_buffer]
      dsimp only
      rw [ih, decodeLines]

theorem decodeLines_append (d : Decoder) (lines more : List (List Char)) :
    d.decodeLines (lines ++ more) =
      ((d.decodeLines lines).1 ++ ((d.decodeLines lines).2.decodeLines more).1,
        ((d.decodeLines lines).2.decodeLines more).2) := by
  induction lines generalizing d with
  | nil => rfl
  | cons line lines ih =>
      rw [List.cons_append, decodeLines, decodeLines]
      dsimp only
      rw [ih, List.append_assoc]

/-! ## One chunk, and the end -/

variable {d : Decoder}

/-- The events of a chunk that reports no error, up to its end. -/
def said (d : Decoder) (c : Chunk) : List Event :=
  (if c.content = "" then [] else [.text c.content]) ++
    (nameCalls d.named c.calls).1.map Event.toolUse

theorem decodeChunk_of_error {c : Chunk} {e : String} (h : c.error = some e) :
    d.decodeChunk c = ([.error (.transport e)], { d with finished := true }) := by
  rw [decodeChunk, h]

theorem decodeChunk_of_done {c : Chunk} (h : c.error = none) (hdone : c.done = true) :
    d.decodeChunk c = ((d.said c).map .ok ++ [.ok (.endStream (usage c))],
      { d with finished := true, named := (nameCalls d.named c.calls).2 }) := by
  rw [decodeChunk, h, hdone]
  simp [said]

theorem decodeChunk_of_open {c : Chunk} (h : c.error = none) (hdone : c.done = false) :
    d.decodeChunk c = ((d.said c).map .ok,
      { d with finished := false, named := (nameCalls d.named c.calls).2 }) := by
  rw [decodeChunk, h, hdone]
  simp [said]

theorem decodeLine_of_finished (h : d.finished = true) (line : List Char) :
    d.decodeLine line = ([], d) := by
  rw [decodeLine, if_pos h]

/-- What is yielded at the end of the body if no line was the last. -/
def ending (d : Decoder) : EventStream := if d.finished then [] else [.ok (.endStream none)]

theorem finish_eq (d : Decoder) :
    d.finish = ((d.decodeLine d.buffer).1 ++ (d.decodeLine d.buffer).2.ending,
      { (d.decodeLine d.buffer).2 with buffer := [], finished := true }) := by
  rw [finish, decodeLine_buffer]
  dsimp only
  rw [ending]
  cases hdone : (d.decodeLine d.buffer).2.finished with
  | true => simp [← hdone]
  | false => simp

/-! ## Taking text -/

/-- Takes a piece of the text of a body. -/
def take (d : Decoder) (text : List Char) : EventStream × Decoder :=
  let (lines, rest) := Text.completeLines (· == '\n') (d.buffer ++ text)
  decodeLines { d with buffer := rest } lines

theorem push_eq (d : Decoder) (piece : Bytes) :
    d.push piece = d.take (Utf8.decodeLossy piece) := rfl

/-- The lines in the buffer have all been decoded. -/
def Settled (d : Decoder) : Prop := ∀ c ∈ d.buffer, (c == '\n') = false

theorem settled_start : Settled start := List.forall_mem_nil _

theorem take_nil {d : Decoder} (h : d.Settled) : d.take [] = ([], d) := by
  rw [take, List.append_nil, Text.completeLines_of_none h]
  rfl

theorem buffer_take (d : Decoder) (text : List Char) :
    (d.take text).2.buffer = (Text.completeLines (· == '\n') (d.buffer ++ text)).2 := by
  rw [take]
  dsimp only
  rw [decodeLines_buffer]

theorem settled_take (d : Decoder) (text : List Char) : (d.take text).2.Settled := by
  intro c hc
  rw [buffer_take] at hc
  exact (Text.mem_of_mem_rest hc).2

/-- **Text that comes in two pieces is text that comes in one.** -/
theorem take_append (d : Decoder) (text more : List Char) :
    d.take (text ++ more) =
      ((d.take text).1 ++ ((d.take text).2.take more).1, ((d.take text).2.take more).2) := by
  rw [take, take, take, ← List.append_assoc, Text.completeLines_append]
  dsimp only
  simp only [decodeLines_buffer, decodeLines_append]

theorem pushAll_eq {d : Decoder} (h : d.Settled) (pieces : List Bytes) :
    d.pushAll pieces = d.take (pieces.flatMap Utf8.decodeLossy) := by
  induction pieces generalizing d with
  | nil => exact (take_nil h).symm
  | cons piece pieces ih =>
      rw [pushAll, push_eq, List.flatMap_cons, take_append]
      dsimp only
      rw [ih (settled_take d _)]

/-- The events of a body with this text. -/
def decodeText (text : List Char) : EventStream :=
  let (events, d) := start.take text
  events ++ d.finish.1

theorem decode_eq (pieces : List Bytes) :
    decode pieces = decodeText (pieces.flatMap Utf8.decodeLossy) := by
  rw [decode, pushAll_eq settled_start]
  rfl

/-- **Cuts between characters make no difference.** -/
theorem decode_of_wholeCuts {pieces : List Bytes} (h : Utf8.WholeCuts pieces) :
    decode pieces = decode [pieces.flatten] := by
  rw [decode_eq, Utf8.flatMap_decodeLossy_eq_iff.mpr h, decode_eq, List.flatMap_singleton]

end ToolAgent.Decoder
