import ToolAgent.Model.Chunk
import ToolAgent.Model.Response
import ToolAgent.Text.Utf8

/-!
# From a streamed body to events

A decoder takes the pieces of a body as they arrive and yields the events of every line that they
complete. Lines that are no chunks are skipped. The first chunk that reports an error or says that
the answer is complete ends the events; if none does, the end of the body does.
-/

namespace ToolAgent

/-- How far a body has been read. -/
structure Decoder where
  /-- What has arrived of the line that is not complete. -/
  buffer : List Char
  /-- Whether the last event was yielded. -/
  finished : Bool
  /-- How many tool uses were given an id. -/
  named : Nat
deriving DecidableEq, Repr

namespace Decoder

/-- A decoder before the first piece. -/
def start : Decoder := ⟨[], false, 0⟩

/-- The id for a tool use that the backend gave none. -/
def freshId (n : Nat) : String :=
  let digits := Nat.toDigits 16 n
  "tooluse_" ++ String.ofList (List.replicate (32 - digits.length) '0' ++ digits)

/-- The tool uses for reported calls, with an id for each that has none. -/
def nameCalls (named : Nat) : List ReportedCall → List ToolUse × Nat
  | [] => ([], named)
  | c :: cs =>
    match c.id with
    | some id =>
      let (uses, named) := nameCalls named cs
      (⟨id, c.name, c.args⟩ :: uses, named)
    | none =>
      let (uses, last) := nameCalls (named + 1) cs
      (⟨freshId named, c.name, c.args⟩ :: uses, last)

/-- The tokens of a complete answer, if both counts are there. -/
def usage (c : Chunk) : Option TokenUsage :=
  match c.promptTokens, c.completionTokens with
  | some prompt, some completion => some (.ofCounts prompt completion)
  | _, _ => none

/-- The events of a chunk. -/
def decodeChunk (d : Decoder) (c : Chunk) : EventStream × Decoder :=
  match c.error with
  | some e => ([.error (.transport e)], { d with finished := true })
  | none =>
    let texts := if c.content = "" then [] else [Event.text c.content]
    let (uses, named) := nameCalls d.named c.calls
    let ends := if c.done then [Event.endStream (usage c)] else []
    ((texts ++ uses.map Event.toolUse ++ ends).map .ok, { d with finished := c.done, named })

/-- The events of a line. -/
def decodeLine (d : Decoder) (line : List Char) : EventStream × Decoder :=
  if d.finished then ([], d)
  else match Chunk.ofLine? (Text.trimChars line) with
    | some c => d.decodeChunk c
    | none => ([], d)

/-- The events of several lines. -/
def decodeLines (d : Decoder) : List (List Char) → EventStream × Decoder
  | [] => ([], d)
  | line :: lines =>
    let (events, d) := d.decodeLine line
    let (later, d) := decodeLines d lines
    (events ++ later, d)

/-- Takes a piece of the body: the events of the lines that it completes. -/
def push (d : Decoder) (piece : Bytes) : EventStream × Decoder :=
  let (lines, rest) := Text.completeLines (· == '\n') (d.buffer ++ Utf8.decodeLossy piece)
  decodeLines { d with buffer := rest } lines

/-- Takes the end of the body. -/
def finish (d : Decoder) : EventStream × Decoder :=
  let (events, d) := decodeLine { d with buffer := [] } d.buffer
  if d.finished then (events, d)
  else (events ++ [.ok (.endStream none)], { d with finished := true })

/-- Takes several pieces. -/
def pushAll (d : Decoder) : List Bytes → EventStream × Decoder
  | [] => ([], d)
  | piece :: pieces =>
    let (events, d) := d.push piece
    let (later, d) := pushAll d pieces
    (events ++ later, d)

/-- The events of a body in pieces. -/
def decode (pieces : List Bytes) : EventStream :=
  let (events, d) := start.pushAll pieces
  events ++ d.finish.1

end Decoder

end ToolAgent
