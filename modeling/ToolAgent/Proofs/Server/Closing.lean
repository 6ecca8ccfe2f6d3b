import ToolAgent.Proofs.Server.Routing

/-!
# When the server's output has ended

The reader stops once, and at that moment tells every request that waits that there will be no
answer. A request that begins later registers like any other, but nobody is left to tell it
anything: unless it cannot be written, it waits until its time is over.

`pending_after_close` says which requests are pending after the end, and how the others return.
-/

namespace ToolAgent

/-- Where a request can stand that nobody tells anything. -/
def Phase.Untold (p : Phase) : Prop := p.Fresh ∨ ∃ fate, p = .returned fate ∧ fate.Unanswered

namespace Router

variable {r : Router} {id : Nat}

theorem closed_step (h : r.closed = true) (signal : Signal) : (r.step signal).closed = true := by
  cases signal with
  | begin => exact h
  | line text => simp only [step, h, if_true]
  | close => simp only [step, h, if_true]
  | expire other =>
      simp only [step]
      split
      · exact h
      · split <;> exact h
  | _ => simp only [step]; split <;> exact h

/-- Nothing is handed to anyone once the reader has stopped. -/
theorem untold_step (h : r.Sound) (hclosed : r.closed = true) (huntold : (r.phase id).Untold)
    (signal : Signal) : ((r.step signal).phase id).Untold := by
  rcases huntold with hfresh | ⟨fate, hreturned, hfate⟩
  · have hturns := turns_step h hfresh signal
    generalize (r.step signal).phase id = p at hturns
    cases hturns with
    | fresh _ hstill => exact .inl hstill
    | answered hresponse =>
        obtain ⟨-, -, -, -, hopen⟩ := responseTo_eq_some hresponse
        rw [hclosed] at hopen
        cases hopen
    | closed _ hopen =>
        rw [hclosed] at hopen
        cases hopen
    | unanswered _ hunanswered => exact .inr ⟨_, rfl, hunanswered⟩
  · rw [phase_step h, hreturned, move_returned]
    exact .inr ⟨fate, rfl, hfate⟩

theorem untold_run (h : r.Sound) (hclosed : r.closed = true) (huntold : (r.phase id).Untold)
    (signals : List Signal) : ((r.run signals).phase id).Untold := by
  induction signals generalizing r with
  | nil => exact huntold
  | cons signal rest ih =>
      apply ih (h.step signal) (closed_step hclosed signal)
      exact untold_step h hclosed huntold signal

theorem closed_close (r : Router) : (r.step .close).closed = true := by
  simp only [step]
  split
  · assumption
  · rfl

/-- **After the end of the output, pending are the requests that began later and have not
returned.** Those that waited at the end fail, and with that alone; those that begin later get
nothing, and return when their time is over unless they cannot be written. -/
theorem pending_after_close {before : List Signal} (hopen : (start.run before).closed = false)
    (after : List Signal) :
    let ended := (start.run before).step .close
    (∀ id, (ended.run after).isPending id = true ↔
      id ∈ ended.numbers after ∧ (ended.run after).fate? id = none) ∧
    (∀ id, (start.run before).phase id = .waiting → ((ended.run after).phase id).Got none) ∧
    ∀ id ∈ ended.numbers after, ∀ fate, (ended.run after).fate? id = some fate →
      fate.Unanswered := by
  intro ended
  have hbefore : (start.run before).Sound := sound_run sound_start before
  have hended : ended.Sound := hbefore.step .close
  have hafter : (ended.run after).Sound := sound_run hended after
  have hclosed : ended.closed = true := closed_close _
  have hphase : ∀ id, ended.phase id = ((start.run before).phase id).hand none :=
    phase_close hbefore hopen
  -- A request that begins later is told nothing.
  have hlate : ∀ id ∈ ended.numbers after, ((ended.run after).phase id).Untold := by
    intro id hid
    apply untold_run hended hclosed
    exact .inl (.inl ((unborn_iff hended).mpr (mem_numbers.mp hid).1))
  refine ⟨fun id => ⟨fun hpending => ?_, fun ⟨hid, hnone⟩ => ?_⟩, fun id hwaiting => ?_,
    fun id hid fate hfate => ?_⟩
  · have hwaits := (phase_eq_waiting_iff hafter).mpr hpending
    obtain ⟨-, hreturned, hlt⟩ := hafter.unreturned (.inl hpending)
    refine ⟨mem_numbers.mpr ⟨?_, hlt⟩, lookup_of_count hreturned⟩
    apply (unborn_iff hended).mp
    -- What is fresh now was fresh then, and the end has left nobody waiting.
    have hfresh : (ended.phase id).Fresh := fresh_of_run hended (.inr hwaits)
    rcases hfresh with hunborn | hwaits'
    · exact hunborn
    · rw [hphase] at hwaits'
      generalize (start.run before).phase id = p at hwaits'
      cases p <;> cases hwaits'
  · apply (phase_eq_waiting_iff hafter).mp
    rcases hlate id hid with (hunborn | hwaits) | ⟨fate, hreturned, -⟩
    · have hle := (unborn_iff hafter).mp hunborn
      have hlt := (mem_numbers.mp hid).2
      omega
    · exact hwaits
    · rw [fate_of_phase hreturned] at hnone
      cases hnone
  · apply got_run hended
    rw [hphase, hwaiting]
    exact .inl rfl
  · rcases hlate id hid with (hunborn | hwaits) | ⟨other, hreturned, hunanswered⟩
    · rw [phase_of_fate hfate] at hunborn
      cases hunborn
    · rw [phase_of_fate hfate] at hwaits
      cases hwaits
    · rw [phase_of_fate hfate] at hreturned
      obtain rfl := Phase.returned.inj hreturned
      exact hunanswered

/-- A request that begins after the end is registered, and only its timeout ends it. -/
theorem latecomer_times_out :
    (start.run [.close, .begin]).closed = true ∧
      (start.run [.close, .begin]).isPending 0 = true ∧
      (start.run [.close, .begin, .look 0, .expire 0]).fate? 0 = some .timedOut := by
  decide

/-- One request waits at the end and two begin later; of these one cannot be written. -/
theorem pending_after_close_of_three :
    (start.run [.begin]).closed = false ∧
      ((start.run [.begin]).step .close).numbers [.begin, .begin, .writeFailed 1 "broken pipe"] =
        [1, 2] ∧
      (((start.run [.begin]).step .close).run
        [.begin, .begin, .writeFailed 1 "broken pipe"]).isPending 2 = true ∧
      ((((start.run [.begin]).step .close).run
        [.begin, .begin, .writeFailed 1 "broken pipe"]).phase 0).Got none := by
  have hopen : (start.run [.begin]).closed = false := by decide
  obtain ⟨hpending, htold, -⟩ :=
    pending_after_close hopen [.begin, .begin, .writeFailed 1 "broken pipe"]
  refine ⟨hopen, rfl, (hpending 2).mpr ⟨?_, ?_⟩, htold 0 ?_⟩
  · decide
  · decide
  · decide

end Router

end ToolAgent
