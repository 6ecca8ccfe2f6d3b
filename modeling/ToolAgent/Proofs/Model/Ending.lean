import ToolAgent.Proofs.Model.Collecting
import ToolAgent.Proofs.Model.Decoding

/-!
# The end of the events

An event is final if it is an error or the end of the response. A decoder that has finished yields
nothing any more; one that has not finished yields events that are not final, until a call that
finishes it, whose last event is final (`Orderly`). Every call of a decoder is of this kind, and the
end of the body finishes it, so that the events of a body have one final event, which is the last
(`decode_endsOnce`).
-/

namespace ToolAgent

/-- Whether nothing may come after an event. -/
def isFinal : Except Error Event → Bool
  | .error _ => true
  | .ok event => event.isEnd

namespace EventStream

/-- None of the events is final. -/
def Open (stream : EventStream) : Prop := ∀ event ∈ stream, isFinal event = false

/-- The last event is final, and no other. -/
def EndsOnce (stream : EventStream) : Prop :=
  ∃ (before : EventStream) (last : Except Error Event),
    stream = before ++ [last] ∧ isFinal last = true ∧ before.Open

theorem open_nil : Open [] := List.forall_mem_nil _

theorem open_map_ok {events : List Event} (h : ∀ event ∈ events, event.isEnd = false) :
    Open (events.map .ok) := by
  intro event hevent
  obtain ⟨event, hmem, rfl⟩ := List.mem_map.mp hevent
  exact h event hmem

theorem Open.append {stream later : EventStream} (h : stream.Open) (hlater : later.Open) :
    Open (stream ++ later) := by
  intro event hevent
  rcases List.mem_append.mp hevent with hevent | hevent
  · exact h event hevent
  · exact hlater event hevent

theorem Open.endsOnce {stream : EventStream} (h : stream.Open) {last : Except Error Event}
    (hlast : isFinal last = true) : EndsOnce (stream ++ [last]) := ⟨stream, last, rfl, hlast, h⟩

theorem Open.append_endsOnce {stream later : EventStream} (h : stream.Open)
    (hlater : later.EndsOnce) : EndsOnce (stream ++ later) := by
  obtain ⟨before, last, rfl, hlast, hbefore⟩ := hlater
  rw [← List.append_assoc]
  exact (h.append hbefore).endsOnce hlast

end EventStream

namespace Decoder

/-! ## One call -/

/-- What a call of a decoder may yield, and the decoder after it. -/
structure Orderly (d : Decoder) (call : EventStream × Decoder) : Prop where
  /-- A decoder that has finished yields nothing, and stays so. -/
  quiet : d.finished = true → call.1 = [] ∧ call.2.finished = true
  /-- One that goes on has yielded no final event. -/
  goesOn : call.2.finished = false → call.1.Open
  /-- One that finishes now yields a final event at the end. -/
  finishes : d.finished = false → call.2.finished = true → call.1.EndsOnce

variable {d : Decoder}

theorem Orderly.nothing {d' : Decoder} (h : d'.finished = d.finished) : Orderly d ([], d') where
  quiet hd := ⟨rfl, h.trans hd⟩
  goesOn _ := EventStream.open_nil
  finishes hd hd' := by
    rw [h, hd] at hd'
    cases hd'

/-- Two calls, one after the other, are like one. -/
theorem Orderly.trans {first second : EventStream × Decoder} (h : Orderly d first)
    (hsecond : Orderly first.2 second) : Orderly d (first.1 ++ second.1, second.2) where
  quiet hd := by
    obtain ⟨hfirst, hdone⟩ := h.quiet hd
    obtain ⟨hnothing, hdone'⟩ := hsecond.quiet hdone
    exact ⟨by rw [hfirst, hnothing]; rfl, hdone'⟩
  goesOn hd := by
    have hfirst : first.2.finished = false :=
      Bool.eq_false_iff.mpr fun hdone => by
        have hstays := (hsecond.quiet hdone).2
        rw [hd] at hstays
        cases hstays
    exact (h.goesOn hfirst).append (hsecond.goesOn hd)
  finishes hd hdone := by
    cases hfirst : first.2.finished with
    | true =>
        rw [(hsecond.quiet hfirst).1, List.append_nil]
        exact h.finishes hd hfirst
    | false => exact (h.goesOn hfirst).append_endsOnce (hsecond.finishes hfirst hdone)

theorem isEnd_of_mem_said {c : Chunk} {event : Event} (h : event ∈ d.said c) :
    event.isEnd = false := by
  rcases List.mem_append.mp h with h | h
  · split at h
    · cases h
    · obtain rfl := List.mem_singleton.mp h
      rfl
  · obtain ⟨use, -, rfl⟩ := List.mem_map.mp h
    rfl

/-- A chunk finishes the decoder if and only if its last event is final. -/
theorem decodeChunk_orderly (hd : d.finished = false) (c : Chunk) :
    Orderly d (d.decodeChunk c) := by
  have hquiet : ∀ {P : Prop}, d.finished = true → P := by
    intro P hdone
    rw [hd] at hdone
    cases hdone
  have hsaid : EventStream.Open ((d.said c).map .ok) :=
    EventStream.open_map_ok fun event => isEnd_of_mem_said
  cases herror : c.error with
  | some e =>
      rw [decodeChunk_of_error herror]
      exact ⟨hquiet, fun hopen => (nomatch hopen), fun _ _ => EventStream.open_nil.endsOnce rfl⟩
  | none =>
      cases hdone : c.done with
      | true =>
          rw [decodeChunk_of_done herror hdone]
          exact ⟨hquiet, fun hopen => (nomatch hopen), fun _ _ => hsaid.endsOnce rfl⟩
      | false =>
          rw [decodeChunk_of_open herror hdone]
          exact ⟨hquiet, fun _ => hsaid, fun _ hfinished => (nomatch hfinished)⟩

theorem decodeLine_orderly (d : Decoder) (line : List Char) : Orderly d (d.decodeLine line) := by
  cases hd : d.finished with
  | true =>
      rw [decodeLine_of_finished hd]
      exact .nothing rfl
  | false =>
      rw [decodeLine, if_neg (by rw [hd]; exact Bool.false_ne_true)]
      split
      · next c _ => exact decodeChunk_orderly hd c
      · exact .nothing rfl

theorem decodeLines_orderly (d : Decoder) (lines : List (List Char)) :
    Orderly d (d.decodeLines lines) := by
  induction lines generalizing d with
  | nil => exact .nothing rfl
  | cons line lines ih => exact (decodeLine_orderly d line).trans (ih (d.decodeLine line).2)

/-- The buffer makes no difference. -/
theorem Orderly.of_buffer {kept : List Char} {call : EventStream × Decoder}
    (h : Orderly { d with buffer := kept } call) : Orderly d call := ⟨h.quiet, h.goesOn, h.finishes⟩

theorem push_orderly (d : Decoder) (piece : Bytes) : Orderly d (d.push piece) :=
  .of_buffer (decodeLines_orderly _ _)

theorem pushAll_orderly (d : Decoder) (pieces : List Bytes) : Orderly d (d.pushAll pieces) := by
  induction pieces generalizing d with
  | nil => exact .nothing rfl
  | cons piece pieces ih => exact (push_orderly d piece).trans (ih (d.push piece).2)

/-- The end of the body finishes the decoder. -/
theorem finished_finish (d : Decoder) : d.finish.2.finished = true := by rw [finish_eq]

theorem ending_orderly (d : Decoder) :
    Orderly d (d.ending, { d with buffer := [], finished := true }) where
  quiet hdone := ⟨if_pos hdone, rfl⟩
  goesOn := nofun
  finishes hd _ := by
    rw [ending, if_neg (by rw [hd]; exact Bool.false_ne_true)]
    exact EventStream.open_nil.endsOnce rfl

theorem finish_orderly (d : Decoder) : Orderly d d.finish := by
  rw [finish_eq]
  exact (decodeLine_orderly d d.buffer).trans (ending_orderly _)

/-! ## Any calls -/

/-- What a decoder is given: a piece of the body, or its end. -/
inductive Feed
  | piece (bytes : Bytes)
  | stop

/-- Takes what it is given. -/
def feed (d : Decoder) : Feed → EventStream × Decoder
  | .piece bytes => d.push bytes
  | .stop => d.finish

/-- The events that each of several calls yields. -/
def feedAll (d : Decoder) : List Feed → List EventStream
  | [] => []
  | given :: more => (d.feed given).1 :: feedAll (d.feed given).2 more

theorem feed_orderly (d : Decoder) (given : Feed) : Orderly d (d.feed given) := by
  cases given with
  | piece bytes => exact push_orderly d bytes
  | stop => exact finish_orderly d

theorem feedAll_of_finished (h : d.finished = true) {given : List Feed} {events : EventStream}
    (hevents : events ∈ d.feedAll given) : events = [] := by
  induction given generalizing d with
  | nil => cases hevents
  | cons first more ih =>
      obtain ⟨hnothing, hstays⟩ := (feed_orderly d first).quiet h
      rcases List.mem_cons.mp hevents with rfl | hevents
      · exact hnothing
      · exact ih hstays hevents

/-- **A body has one end.** Whatever the pieces of a body are, its events have exactly one final
event, and that is the last of them; whatever the decoder is given later, it yields nothing. -/
theorem decode_endsOnce (pieces : List Bytes) :
    (decode pieces).EndsOnce ∧
      ∀ later : List Feed, ∀ events ∈ (start.pushAll pieces).2.finish.2.feedAll later,
        events = [] := by
  have hall := (pushAll_orderly start pieces).trans (finish_orderly _)
  have hfinished := finished_finish (start.pushAll pieces).2
  exact ⟨hall.finishes rfl hfinished, fun later events => feedAll_of_finished hfinished⟩

end Decoder

end ToolAgent
