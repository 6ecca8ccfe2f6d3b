import ToolAgent.Proofs.Json.Scanner
import ToolAgent.Proofs.Server.Phases

/-!
# Every reply goes to its request

What becomes of the requests of a client in a run of happenings, in whatever order they come.

* `firstResponse` — the first line with the number of a request that is read while the request is
  pending. `got_of_firstResponse` says that the request gets it, and nothing else.
* `routed_run` — numbers, registrations, replies and lines, for every run from the start.
-/

namespace ToolAgent

namespace Router

/-! ## What becomes of a request -/

section Moves

variable {r : Router} {id : Nat}

theorem move_returned (r : Router) (id : Nat) (fate : Fate) (signal : Signal) :
    r.move id (.returned fate) signal = .returned fate := by
  cases signal with
  | line text =>
      simp only [move]
      split
      · rfl
      · split
        · split <;> rfl
        · rfl
  | _ => simp only [move]; split <;> rfl

theorem got_move {content : Option Rpc.Reply} {p : Phase} (h : p.Got content) (signal : Signal) :
    (r.move id p signal).Got content := by
  rcases h with rfl | rfl | ⟨reason, rfl⟩
  · cases signal with
    | begin => simp only [move]; split <;> exact .inl rfl
    | writeFailed other reason =>
        simp only [move]
        split
        · exact .inr (.inr ⟨reason, rfl⟩)
        · exact .inl rfl
    | line text =>
        simp only [move]
        split
        · exact .inl rfl
        · split
          · split <;> exact .inl rfl
          · exact .inl rfl
    | look other =>
        simp only [move]
        split
        · exact .inr (.inl rfl)
        · exact .inl rfl
    | expire other =>
        simp only [move]
        split
        · exact .inr (.inl rfl)
        · exact .inl rfl
    | close => simp only [move]; split <;> exact .inl rfl
  · rw [move_returned]
    exact .inr (.inl rfl)
  · rw [move_returned]
    exact .inr (.inr ⟨reason, rfl⟩)

theorem fresh_of_move {p : Phase} {signal : Signal} (h : (r.move id p signal).Fresh) :
    p.Fresh := by
  cases p with
  | unborn => exact .inl rfl
  | waiting => exact .inr rfl
  | handed content => exact absurd h (got_move (.inl rfl) signal).not_fresh
  | returned fate =>
      rw [move_returned] at h
      exact h

theorem fresh_of_run (h : r.Sound) {signals : List Signal}
    (hfresh : ((r.run signals).phase id).Fresh) : (r.phase id).Fresh := by
  induction signals generalizing r with
  | nil => exact hfresh
  | cons signal rest ih =>
      have hnext := ih (h.step signal) hfresh
      rw [phase_step h] at hnext
      exact fresh_of_move hnext

theorem phase_run_returned (h : r.Sound) {fate : Fate} (hphase : r.phase id = .returned fate)
    (signals : List Signal) : (r.run signals).phase id = .returned fate := by
  induction signals generalizing r with
  | nil => exact hphase
  | cons signal rest ih =>
      apply ih (h.step signal)
      rw [phase_step h, hphase, move_returned]

theorem got_run (h : r.Sound) {content : Option Rpc.Reply} (hgot : (r.phase id).Got content)
    (signals : List Signal) : ((r.run signals).phase id).Got content := by
  induction signals generalizing r with
  | nil => exact hgot
  | cons signal rest ih =>
      apply ih (h.step signal)
      rw [phase_step h]
      exact got_move hgot signal

end Moves

/-! ### The first response -/

/-- The content of a signal that is a response to a request that waits for one. -/
def responseTo (r : Router) (id : Nat) : Signal → Option (Option Rpc.Reply)
  | .line text =>
    match Rpc.Incoming.ofLine text with
    | .reply other content =>
      if other = id ∧ r.isPending id = true ∧ r.closed = false then some content else none
    | .other => none
  | _ => none

/-- The content of the first line with the number of a request that is read while the request is
pending. -/
def firstResponse (r : Router) (id : Nat) : List Signal → Option (Option Rpc.Reply)
  | [] => none
  | signal :: rest => (r.responseTo id signal).or ((r.step signal).firstResponse id rest)

/-- Where a happening can leave a request that nothing had become of. -/
inductive Turns (r : Router) (id : Nat) (signal : Signal) : Phase → Prop
  | fresh {p} : r.responseTo id signal = none → p.Fresh → Turns r id signal p
  | answered {content} : r.responseTo id signal = some content →
      Turns r id signal (.handed content)
  /-- The output of the server has ended. -/
  | closed : r.responseTo id signal = none → r.closed = false → Turns r id signal (.handed none)
  | unanswered {fate} : r.responseTo id signal = none → fate.Unanswered →
      Turns r id signal (.returned fate)

section Responses

variable {r : Router} {id : Nat}

/-- A response is a line with the number of a request that is pending, read before the end. -/
theorem responseTo_eq_some {signal : Signal} {content : Option Rpc.Reply}
    (h : r.responseTo id signal = some content) :
    ∃ text, signal = .line text ∧ Rpc.Incoming.ofLine text = .reply id content ∧
      r.isPending id = true ∧ r.closed = false := by
  cases signal with
  | line text =>
      simp only [responseTo] at h
      split at h
      · next other read hline =>
          split at h
          · next hwaits =>
              obtain rfl := Option.some.inj h
              obtain ⟨rfl, hpending, hopen⟩ := hwaits
              exact ⟨text, rfl, hline, hpending, hopen⟩
          · cases h
      · cases h
  | _ => cases h

theorem responseTo_of_not_waiting (h : r.Sound) (hp : r.phase id ≠ .waiting) (signal : Signal) :
    r.responseTo id signal = none := by
  apply Option.eq_none_iff_forall_ne_some.mpr
  intro content hresponse
  obtain ⟨-, -, -, hpending, -⟩ := responseTo_eq_some hresponse
  exact hp ((phase_eq_waiting_iff h).mpr hpending)

/-- **A line moves at most the request that it is the response to.** -/
theorem phase_step_line (h : r.Sound) (id : Nat) (text : String) :
    (∃ content, r.responseTo id (.line text) = some content ∧
      (r.step (.line text)).phase id = .handed content) ∨
    (r.responseTo id (.line text) = none ∧ (r.step (.line text)).phase id = r.phase id) := by
  have hwaiting : r.phase id = .waiting ↔ r.isPending id = true := phase_eq_waiting_iff h
  rw [phase_step h]
  simp only [move, responseTo]
  cases hclosed : r.closed with
  | true =>
      refine .inr ⟨?_, rfl⟩
      split
      · exact if_neg (by simp)
      · rfl
  | false =>
      simp only [Bool.false_eq_true, if_false, and_true]
      cases Rpc.Incoming.ofLine text with
      | other => exact .inr ⟨rfl, rfl⟩
      | reply other content =>
          dsimp only
          by_cases hid : other = id
          · subst hid
            rw [if_pos rfl]
            cases hpending : r.isPending other with
            | true =>
                rw [hwaiting.mpr hpending]
                exact .inl ⟨content, if_pos ⟨rfl, rfl⟩, rfl⟩
            | false =>
                -- A reply to a request that does not wait moves nothing.
                refine .inr ⟨if_neg (by simp), ?_⟩
                have hnot : r.phase other ≠ .waiting := fun he => by
                  rw [hwaiting.mp he] at hpending
                  cases hpending
                generalize r.phase other = p at hnot ⊢
                cases p with
                | waiting => exact absurd rfl hnot
                | _ => rfl
          · exact .inr ⟨if_neg fun hand => hid hand.1, if_neg hid⟩

theorem fresh_move_unborn (r : Router) (id : Nat) (signal : Signal) :
    (r.move id .unborn signal).Fresh := by
  cases signal with
  | begin =>
      simp only [move]
      split
      · exact .inr rfl
      · exact .inl rfl
  | line text =>
      simp only [move]
      split
      · exact .inl rfl
      · split
        · split <;> exact .inl rfl
        · exact .inl rfl
  | _ => simp only [move]; split <;> exact .inl rfl

theorem turns_step (h : r.Sound) (hfresh : (r.phase id).Fresh) (signal : Signal) :
    r.Turns id signal ((r.step signal).phase id) := by
  rcases hfresh with hp | hp
  · rw [phase_step h, hp]
    exact .fresh (responseTo_of_not_waiting h (by simp [hp]) signal) (fresh_move_unborn r id signal)
  · cases signal with
    | line text =>
        rcases phase_step_line h id text with ⟨content, hresponse, hphase⟩ | ⟨hresponse, hphase⟩
        · rw [hphase]
          exact .answered hresponse
        · rw [hphase, hp]
          exact .fresh hresponse (.inr rfl)
    | begin =>
        rw [phase_step h, hp, move]
        split <;> exact .fresh rfl (.inr rfl)
    | writeFailed other reason =>
        rw [phase_step h, hp, move]
        split
        · exact .unanswered rfl (.inr ⟨reason, rfl⟩)
        · exact .fresh rfl (.inr rfl)
    | look other =>
        rw [phase_step h, hp, move]
        split <;> exact .fresh rfl (.inr rfl)
    | expire other =>
        rw [phase_step h, hp, move]
        split
        · exact .unanswered rfl (.inl rfl)
        · exact .fresh rfl (.inr rfl)
    | close =>
        rw [phase_step h, hp, move]
        split
        · exact .fresh rfl (.inr rfl)
        · next hopen => exact .closed rfl (by simpa using hopen)

/-- Once something has become of a request, no line is a response to it. -/
theorem firstResponse_of_not_fresh (h : r.Sound) (hp : ¬ (r.phase id).Fresh)
    (signals : List Signal) : r.firstResponse id signals = none := by
  induction signals generalizing r with
  | nil => rfl
  | cons signal rest ih =>
      have hnone := responseTo_of_not_waiting h (fun hwaits => hp (.inr hwaits)) signal
      rw [firstResponse, hnone, Option.none_or]
      apply ih (h.step signal)
      rw [phase_step h]
      exact fun hfresh => hp (fresh_of_move hfresh)

/-- **A request gets its first response.** -/
theorem got_of_firstResponse (h : r.Sound) (hfresh : (r.phase id).Fresh) {signals : List Signal}
    {content : Option Rpc.Reply} (hfirst : r.firstResponse id signals = some content) :
    ((r.run signals).phase id).Got content := by
  induction signals generalizing r with
  | nil => cases hfirst
  | cons signal rest ih =>
      have hturns := turns_step h hfresh signal
      have hsound := h.step signal
      rw [firstResponse] at hfirst
      generalize hp : (r.step signal).phase id = p at hturns
      -- The request is as fresh as before, or this signal has decided what it gets.
      cases hturns with
      | fresh hnone hstill =>
          rw [hnone, Option.none_or] at hfirst
          exact ih hsound (hp ▸ hstill) hfirst
      | answered hresponse =>
          rw [hresponse, Option.some_or] at hfirst
          obtain rfl := Option.some.inj hfirst
          exact got_run hsound (.inl hp) rest
      | closed hnone _ =>
          have hover : ¬ ((r.step signal).phase id).Fresh := by simp [hp, Phase.Fresh]
          have hnever := firstResponse_of_not_fresh hsound hover rest
          rw [hnone, Option.none_or, hnever] at hfirst
          cases hfirst
      | unanswered hnone _ =>
          have hover : ¬ ((r.step signal).phase id).Fresh := by simp [hp, Phase.Fresh]
          have hnever := firstResponse_of_not_fresh hsound hover rest
          rw [hnone, Option.none_or, hnever] at hfirst
          cases hfirst

theorem phase_of_fate {fate : Fate} (h : r.fate? id = some fate) : r.phase id = .returned fate := by
  rw [phase, h]

theorem fate_of_phase {fate : Fate} (h : r.phase id = .returned fate) : r.fate? id = some fate := by
  unfold phase at h
  split at h
  · next other hfate =>
      obtain rfl := Phase.returned.inj h
      exact hfate
  · split at h
    · cases h
    · split at h <;> cases h

theorem eq_of_got_answered {content : Option Rpc.Reply} {reply : Rpc.Reply}
    (h : (Phase.returned (.answered reply)).Got content) : content = some reply := by
  rcases h with he | he | ⟨_, he⟩
  · cases he
  · cases content with
    | none => cases he
    | some other =>
        injection he with he
        injection he with he
        rw [he]
  · cases he

/-- **A request is answered by nothing but its first response.** -/
theorem firstResponse_of_answered (h : r.Sound) (hfresh : (r.phase id).Fresh)
    {signals : List Signal} {reply : Rpc.Reply}
    (hfate : (r.run signals).fate? id = some (.answered reply)) :
    r.firstResponse id signals = some (some reply) := by
  induction signals generalizing r with
  | nil =>
      have hp : r.phase id = .returned (.answered reply) := phase_of_fate hfate
      rw [hp] at hfresh
      rcases hfresh with he | he <;> cases he
  | cons signal rest ih =>
      have hturns := turns_step h hfresh signal
      have hsound := h.step signal
      have hlast : ((r.step signal).run rest).phase id = .returned (.answered reply) :=
        phase_of_fate hfate
      rw [firstResponse]
      generalize hp : (r.step signal).phase id = p at hturns
      cases hturns with
      | fresh hnone hstill =>
          rw [hnone, Option.none_or]
          exact ih hsound (hp ▸ hstill) hfate
      | @answered content hresponse =>
          have hgot := got_run hsound (.inl hp) rest
          rw [hlast] at hgot
          rw [hresponse, eq_of_got_answered hgot, Option.some_or]
      | closed _ _ =>
          have hgot := got_run hsound (.inl hp) rest
          rw [hlast] at hgot
          cases eq_of_got_answered hgot
      | unanswered _ hunanswered =>
          rw [phase_run_returned hsound hp] at hlast
          obtain rfl := Phase.returned.inj hlast
          rcases hunanswered with he | ⟨_, he⟩ <;> cases he

end Responses

/-! ## Numbers -/

/-- The numbers that requests get, in the order in which they begin. -/
def numbers (r : Router) : List Signal → List Nat
  | [] => []
  | .begin :: rest => r.nextId :: (r.step .begin).numbers rest
  | signal :: rest => (r.step signal).numbers rest

theorem nextId_step (r : Router) (signal : Signal) :
    (r.step signal).nextId = if signal = .begin then r.nextId + 1 else r.nextId := by
  cases signal with
  | begin => rfl
  | line text =>
      simp only [step]
      split
      · rfl
      · split
        · split <;> rfl
        · rfl
  | expire id =>
      simp only [step]
      split
      · rfl
      · split <;> rfl
  | _ => simp only [step]; split <;> rfl

/-- Numbers are given one after the other, none twice. -/
theorem numbers_eq (r : Router) (signals : List Signal) :
    ∃ n, r.numbers signals = List.range' r.nextId n ∧ (r.run signals).nextId = r.nextId + n := by
  induction signals generalizing r with
  | nil => exact ⟨0, rfl, rfl⟩
  | cons signal rest ih =>
      obtain ⟨n, hnumbers, hnext⟩ := ih (r.step signal)
      have hstep := nextId_step r signal
      by_cases hbegin : signal = .begin
      · subst hbegin
        rw [if_pos rfl] at hstep
        refine ⟨n + 1, ?_, ?_⟩
        · rw [numbers, hnumbers, hstep, List.range'_succ]
        · show ((r.step .begin).run rest).nextId = _
          omega
      · rw [if_neg hbegin] at hstep
        refine ⟨n, ?_, ?_⟩
        · rw [← hstep, ← hnumbers]
          cases signal with
          | begin => exact absurd rfl hbegin
          | _ => rfl
        · show ((r.step signal).run rest).nextId = _
          omega

theorem mem_numbers {r : Router} {signals : List Signal} {id : Nat} :
    id ∈ r.numbers signals ↔ r.nextId ≤ id ∧ id < (r.run signals).nextId := by
  obtain ⟨n, hnumbers, hnext⟩ := numbers_eq r signals
  rw [hnumbers, List.mem_range'_1, hnext]

theorem nodup_numbers (r : Router) (signals : List Signal) : (r.numbers signals).Nodup := by
  obtain ⟨n, hnumbers, -⟩ := numbers_eq r signals
  rw [hnumbers]
  exact List.nodup_range'

/-! ## Every run -/

/-- A line that means nothing to a router. -/
inductive Unheeded (r : Router) (text : String) : Prop
  | blank : Text.isBlankText text = true → Unheeded r text
  | notJson {message} : Json.parse text = .error message → Unheeded r text
  /-- A message without the number of a request, such as a notification. -/
  | unnumbered {v} : Json.parse text = .ok v → (v.get? "id").bind Json.Value.asNat? = none →
      Unheeded r text
  /-- A message that answers nothing, such as a notification or a request of the server's own. -/
  | noResponse {v} : Json.parse text = .ok v → v.get? "result" = none → v.get? "error" = none →
      Unheeded r text
  /-- A response to a request that there is not, or that does not wait any more. -/
  | unknown {id content} : Rpc.Incoming.ofLine text = .reply id content →
      r.isPending id = false → Unheeded r text

theorem step_unheeded {r : Router} {text : String} (h : r.Unheeded text) :
    r.step (.line text) = r := by
  have hother : Rpc.Incoming.ofLine text = .other → r.step (.line text) = r := by
    intro hline
    simp only [step, hline, ite_self]
  cases h with
  | blank hblank =>
      obtain ⟨message, hparse⟩ := Json.parse_of_blank hblank
      apply hother
      rw [Rpc.Incoming.ofLine, hparse]
  | notJson hparse =>
      apply hother
      rw [Rpc.Incoming.ofLine, hparse]
  | unnumbered hparse hid =>
      apply hother
      simp only [Rpc.Incoming.ofLine, hparse, Rpc.Incoming.ofJson, hid]
  | @noResponse v hparse hresult herror =>
      apply hother
      simp only [Rpc.Incoming.ofLine, hparse, Rpc.Incoming.ofJson, hresult, herror]
      cases (v.get? "id").bind Json.Value.asNat? <;> rfl
  | unknown hline hpending =>
      simp only [step, hline, hpending, Bool.false_eq_true, if_false, ite_self]

/-- What holds of the requests of a client after these happenings. -/
structure Routed (signals : List Signal) : Prop where
  /-- No two requests have the same number. -/
  distinct : (start.numbers signals).Nodup
  /-- A request stands somewhere if and only if it has begun. -/
  begun : ∀ id, id ∈ start.numbers signals ↔ (start.run signals).phase id ≠ .unborn
  /-- Only requests that began and have not returned are pending. -/
  unreturned : ∀ id, (start.run signals).isPending id = true →
    id ∈ start.numbers signals ∧ (start.run signals).fate? id = none
  /-- A request that has returned has left nothing behind. -/
  cleared : ∀ id fate, (start.run signals).fate? id = some fate →
    (start.run signals).isPending id = false ∧ (start.run signals).mail.lookup id = none
  /-- A request that returned an answer returned the first one that was read while it was
  pending. -/
  answered : ∀ id reply, (start.run signals).fate? id = some (.answered reply) →
    start.firstResponse id signals = some (some reply)
  /-- A request whose first response was read gets this, and fails if it is malformed. -/
  got : ∀ id content, start.firstResponse id signals = some content →
    ((start.run signals).phase id).Got content
  /-- A line changes nothing for a request unless it is a response to it while it waits. -/
  line : ∀ id text,
    ((start.run signals).step (.line text)).phase id ≠ (start.run signals).phase id →
    (start.run signals).isPending id = true ∧ ∃ content,
      Rpc.Incoming.ofLine text = .reply id content ∧
      ((start.run signals).step (.line text)).phase id = .handed content
  /-- A line is a response to one request at most. -/
  single : ∀ a b text,
    ((start.run signals).step (.line text)).phase a ≠ (start.run signals).phase a →
    ((start.run signals).step (.line text)).phase b ≠ (start.run signals).phase b → a = b
  /-- A line that means nothing changes nothing at all. -/
  unheeded : ∀ text, (start.run signals).Unheeded text →
    (start.run signals).step (.line text) = start.run signals

/-- A line that moves a request is a response to it. -/
theorem responseTo_of_moved {r : Router} (h : r.Sound) {id : Nat} {text : String}
    (hmoved : (r.step (.line text)).phase id ≠ r.phase id) :
    r.isPending id = true ∧ ∃ content, Rpc.Incoming.ofLine text = .reply id content ∧
      (r.step (.line text)).phase id = .handed content := by
  rcases phase_step_line h id text with ⟨content, hresponse, hphase⟩ | ⟨-, hsame⟩
  · obtain ⟨_, heq, hline, hpending, -⟩ := responseTo_eq_some hresponse
    obtain rfl := Signal.line.inj heq
    exact ⟨hpending, content, hline, hphase⟩
  · exact absurd hsame hmoved

theorem unborn_iff {r : Router} (h : r.Sound) {id : Nat} :
    r.phase id = .unborn ↔ r.nextId ≤ id := by
  have hplaces := h id
  unfold places at hplaces
  have hstands := h.stands id
  generalize r.phase id = p at hstands ⊢
  constructor
  · rintro rfl
    cases hstands with
    | unborn hpending hmail hfate =>
        have hnone : r.pending.count id = 0 := by
          apply Nat.eq_zero_of_not_pos
          rw [← isPending_iff, hpending]
          exact Bool.false_ne_true
        -- It is in no place, while a number that was given out is in one.
        have hmail' := count_of_lookup hmail
        have hfate' := count_of_lookup hfate
        apply Nat.le_of_not_lt
        intro hlt
        rw [if_pos hlt] at hplaces
        omega
  · intro hle
    rw [if_neg (Nat.not_lt.mpr hle)] at hplaces
    cases hstands with
    | unborn _ _ _ => rfl
    | waiting hpending _ _ =>
        have := isPending_iff.mp hpending
        omega
    | handed _ hmail _ =>
        have := count_pos_of_lookup hmail
        omega
    | returned _ _ hfate =>
        have := count_pos_of_lookup hfate
        omega

theorem fresh_start (id : Nat) : (start.phase id).Fresh := .inl rfl

/-- **Every reply goes to its request**, in whatever order requests begin, fail, time out and are
answered. -/
theorem routed_run (signals : List Signal) : Routed signals := by
  have hsound : (start.run signals).Sound := sound_run sound_start signals
  refine ⟨nodup_numbers start signals, ?_, ?_, ?_, ?_, ?_,
    fun id text => responseTo_of_moved hsound, ?_, fun text => step_unheeded⟩
  · intro id
    rw [Ne, unborn_iff hsound, mem_numbers, Nat.not_le]
    exact and_iff_right (Nat.zero_le id)
  · intro id hpending
    obtain ⟨-, hreturned, hlt⟩ := hsound.unreturned (.inl hpending)
    exact ⟨mem_numbers.mpr ⟨Nat.zero_le id, hlt⟩, lookup_of_count hreturned⟩
  · intro id fate hfate
    have hstands := hsound.stands id
    rw [phase_of_fate hfate] at hstands
    cases hstands with
    | returned hpending hmail _ => exact ⟨hpending, hmail⟩
  · intro id reply hfate
    exact firstResponse_of_answered sound_start (fresh_start id) hfate
  · intro id content hfirst
    exact got_of_firstResponse sound_start (fresh_start id) hfirst
  · intro a b text ha hb
    obtain ⟨-, _, hline, -⟩ := responseTo_of_moved hsound ha
    obtain ⟨-, _, hline', -⟩ := responseTo_of_moved hsound hb
    rw [hline] at hline'
    injection hline'

end Router

end ToolAgent
