import ToolAgent.Model.Response

/-!
# Draining a stream

A stream that is drained either comes to a complete response or breaks off.

* `collect_eq_error_iff` — it breaks off exactly if an error comes before the end (`Breaks`), and
  with that error; the events before it leave nothing but the fragments that were shown
  (`collectFrom_of_breaks`).
* `collect_eq_ok` — otherwise it is complete (`Completes`), and the fragments before its end are the
  text of the response; that they are what was shown is `text_eq_join_fragments`.
-/

namespace ToolAgent

/-- Whether an event is the end of a response. -/
def Event.isEnd : Event → Bool
  | .endStream _ => true
  | _ => false

/-- The text of an event, if there is any. -/
def Event.fragment? : Event → Option String
  | .text s => if s = "" then none else some s
  | _ => none

/-- A stream fails with `e` after these events, none of which is its end. -/
structure EventStream.Breaks (stream : EventStream) (events : List Event) (e : Error) : Prop where
  fails : ∃ rest, stream = events.map .ok ++ .error e :: rest
  unended : ∀ event ∈ events, event.isEnd = false

namespace EventStream.Breaks

theorem here (e : Error) (rest : EventStream) : Breaks (.error e :: rest) [] e :=
  ⟨⟨rest, rfl⟩, by simp⟩

theorem cons {stream : EventStream} {events : List Event} {e : Error} (h : stream.Breaks events e)
    {event : Event} (hevent : event.isEnd = false) :
    Breaks (.ok event :: stream) (event :: events) e := by
  obtain ⟨⟨rest, rfl⟩, hunended⟩ := h
  exact ⟨⟨rest, rfl⟩, List.forall_mem_cons.mpr ⟨hevent, hunended⟩⟩

end EventStream.Breaks

/-- What a stream that breaks off comes to, whatever had arrived before it. -/
theorem collectFrom_of_breaks {stream : EventStream} {events : List Event} {e : Error}
    (h : stream.Breaks events e) (sofar : Response) :
    collectFrom sofar stream = ⟨events.filterMap Event.fragment?, .error e⟩ := by
  obtain ⟨⟨rest, rfl⟩, hunended⟩ := h
  induction events generalizing sofar with
  | nil => rfl
  | cons event later ih =>
      obtain ⟨hevent, hlater⟩ := List.forall_mem_cons.mp hunended
      have hrest := fun sofar => ih sofar hlater
      cases event with
      | text s =>
          by_cases hs : s = ""
          · simp [collectFrom, Event.fragment?, hs, hrest]
          · simp [collectFrom, Event.fragment?, hs, hrest]
      | toolUse use =>
          rw [List.map_cons, List.cons_append, collectFrom, hrest]
          rfl
      | endStream usage => cases hevent

theorem exists_breaks {stream : EventStream} {sofar : Response} {e : Error}
    (h : (collectFrom sofar stream).response = .error e) : ∃ events, stream.Breaks events e := by
  fun_induction collectFrom sofar stream
  case case1 | case6 => cases h
  case case2 failure rest =>
    obtain rfl := Except.error.inj h
    exact ⟨[], .here failure rest⟩
  case case3 ih | case4 ih | case5 ih =>
    -- What has arrived is no end, so draining goes on.
    obtain ⟨events, hbreaks⟩ := ih h
    exact ⟨_, hbreaks.cons rfl⟩

/-- **When draining fails**: if and only if the stream breaks off. -/
theorem collect_eq_error_iff {stream : EventStream} {e : Error} :
    (collect stream).response = .error e ↔ ∃ events, stream.Breaks events e := by
  constructor
  · intro h
    exact exists_breaks h
  · rintro ⟨events, hbreaks⟩
    rw [collect, collectFrom_of_breaks hbreaks]

/-- A stream comes to its end, or stops without a failure, after these events. -/
structure EventStream.Completes (stream : EventStream) (events : List Event) : Prop where
  ends : stream = events.map .ok ∨
    ∃ usage rest, stream = events.map .ok ++ .ok (.endStream usage) :: rest
  unended : ∀ event ∈ events, event.isEnd = false

theorem EventStream.Completes.cons {stream : EventStream} {events : List Event}
    (h : stream.Completes events) {event : Event} (hevent : event.isEnd = false) :
    Completes (.ok event :: stream) (event :: events) := by
  obtain ⟨rfl | ⟨usage, rest, rfl⟩, hunended⟩ := h
  · exact ⟨.inl rfl, List.forall_mem_cons.mpr ⟨hevent, hunended⟩⟩
  · exact ⟨.inr ⟨usage, rest, rfl⟩, List.forall_mem_cons.mpr ⟨hevent, hunended⟩⟩

/-- The text that events come to. -/
def textOf (events : List Event) : String := String.join (events.filterMap Event.fragment?)

/-- What a complete stream comes to, whatever had arrived before it. -/
theorem collectFrom_of_completes {stream : EventStream} {events : List Event}
    (h : stream.Completes events) (sofar : Response) :
    ∃ r, (collectFrom sofar stream).response = .ok r ∧ r.text = sofar.text ++ textOf events := by
  obtain ⟨hends, hunended⟩ := h
  induction events generalizing sofar stream with
  | nil =>
      rcases hends with rfl | ⟨usage, rest, rfl⟩
      · exact ⟨sofar, rfl, by simp [textOf]⟩
      · exact ⟨_, rfl, by simp [textOf]⟩
  | cons event later ih =>
      obtain ⟨hevent, hlater⟩ := List.forall_mem_cons.mp hunended
      obtain ⟨tail, rfl, htail⟩ : ∃ tail : EventStream, stream = .ok event :: tail ∧
          (tail = later.map .ok ∨
            ∃ usage rest, tail = later.map .ok ++ .ok (.endStream usage) :: rest) := by
        rcases hends with rfl | ⟨usage, rest, rfl⟩
        · exact ⟨_, rfl, .inl rfl⟩
        · exact ⟨_, rfl, .inr ⟨usage, rest, rfl⟩⟩
      have hrest := fun sofar => ih sofar htail hlater
      cases event with
      | text s =>
          by_cases hs : s = ""
          · simpa [collectFrom, textOf, Event.fragment?, hs] using hrest sofar
          · simpa [collectFrom, textOf, Event.fragment?, hs, String.append_assoc] using
              hrest { sofar with text := sofar.text ++ s }
      | toolUse use => exact hrest { sofar with toolUses := sofar.toolUses ++ [use] }
      | endStream usage => cases hevent

theorem exists_completes {stream : EventStream} {sofar r : Response}
    (h : (collectFrom sofar stream).response = .ok r) : ∃ events, stream.Completes events := by
  fun_induction collectFrom sofar stream
  case case1 => exact ⟨[], .inl rfl, by simp⟩
  case case2 => cases h
  case case3 ih | case4 ih | case5 ih =>
    -- What has arrived is no end, so draining goes on.
    obtain ⟨events, hcompletes⟩ := ih h
    exact ⟨_, hcompletes.cons rfl⟩
  case case6 usage rest => exact ⟨[], .inr ⟨usage, rest, rfl⟩, by simp⟩

theorem collect_of_completes {stream : EventStream} {events : List Event}
    (h : stream.Completes events) :
    ∃ r, (collect stream).response = .ok r ∧ r.text = textOf events := by
  obtain ⟨r, hr, htext⟩ := collectFrom_of_completes h .empty
  exact ⟨r, hr, htext.trans (String.empty_append)⟩

/-- **When draining succeeds**: only if the stream is complete, and with the text of its events. -/
theorem collect_eq_ok {stream : EventStream} {r : Response}
    (h : (collect stream).response = .ok r) :
    ∃ events, stream.Completes events ∧ r.text = textOf events := by
  obtain ⟨events, hcompletes⟩ := exists_completes h
  obtain ⟨r', hr', htext⟩ := collect_of_completes hcompletes
  obtain rfl := Except.ok.inj (h.symm.trans hr')
  exact ⟨events, hcompletes, htext⟩

/-- The fragments of a complete response are its text. -/
theorem text_eq_join_fragments {stream : EventStream} {sofar r : Response}
    (h : (collectFrom sofar stream).response = .ok r) :
    r.text = sofar.text ++ String.join (collectFrom sofar stream).fragments := by
  fun_induction collectFrom sofar stream with
  | case1 sofar =>
      obtain rfl := Except.ok.inj h
      simp
  | case2 sofar failure rest => cases h
  | case3 sofar rest ih => exact ih h
  | case4 sofar s rest hs later ih =>
      have htext := ih h
      rw [htext, String.join_cons, String.append_assoc]
  | case5 sofar use rest ih => exact ih h
  | case6 sofar usage rest =>
      obtain rfl := Except.ok.inj h
      simp

end ToolAgent
