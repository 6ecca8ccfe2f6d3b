import ToolAgent.Proofs.Server.Closing
import ToolAgent.Server.Client

/-!
# What a request is answered with

Of all that a server puts out, a request looks at one thing: the first line that is an answer with
its number, if that is read before the end. This module says so of a client that was made for its
peer and has only been used for requests and notifications.

* `Client.Used` — such a client.
* `Client.replyTo` — what the peer's output says to a request that is about to be made.
* `Client.request_of_reply`, `Client.exists_error_of_no_reply` — what the request comes to.
-/

namespace ToolAgent

open Json (Value)

/-! ## What is read -/

/-- What the reader of the output makes of it: a line, or the end. -/
def Signal.IsReading (signal : Signal) : Prop := (∃ text, signal = .line text) ∨ signal = .close

theorem Signal.isReading_ofBytes (line : Bytes) : (Signal.ofBytes line).IsReading := by
  unfold Signal.ofBytes
  split
  · exact .inl ⟨_, rfl⟩
  · exact .inr rfl

theorem Router.run_of_closed {r : Router} (hclosed : r.closed = true) {signals : List Signal}
    (h : ∀ signal ∈ signals, signal.IsReading) : r.run signals = r := by
  induction signals with
  | nil => rfl
  | cons signal rest ih =>
      obtain ⟨hfirst, hrest⟩ := List.forall_mem_cons.mp h
      have hstep : r.step signal = r := by
        rcases hfirst with ⟨text, rfl⟩ | rfl <;> simp only [step, hclosed, if_true]
      show (r.step signal).run rest = r
      rw [hstep]
      exact ih hrest

namespace Client

variable {π : Type}

/-- What is read of the inbox: its complete lines and, if the output has ended, what is left and
the end. -/
def readings (c : Client π) : List Signal :=
  let (lines, rest) := Text.completeLines (· == 10) c.inbox
  lines.map Signal.ofBytes
    ++ if c.inboxEnds then (if rest = [] then [] else [Signal.ofBytes rest]) ++ [.close] else []

theorem router_drain (c : Client π) : c.drain.router = c.router.run c.readings := rfl

theorem isReading_of_mem_readings {c : Client π} {signal : Signal} (h : signal ∈ c.readings) :
    signal.IsReading := by
  rcases List.mem_append.mp h with hline | hend
  · obtain ⟨line, -, rfl⟩ := List.mem_map.mp hline
    exact Signal.isReading_ofBytes line
  · split at hend
    · rcases List.mem_append.mp hend with hrest | hclose
      · split at hrest
        · cases hrest
        · obtain rfl := List.mem_singleton.mp hrest
          exact Signal.isReading_ofBytes _
      · exact .inr (List.mem_singleton.mp hclose)
    · cases hend

/-- What a request comes to is told with the name of the server and the time limit alone. -/
theorem conclude_congr {c d : Client π} (hlabel : d.label = c.label)
    (htimeout : d.timeout = c.timeout) (method : String) (fate : Fate) :
    d.conclude method fate = c.conclude method fate := by
  cases fate <;> simp only [conclude, hlabel, htimeout]

end Client

/-- What the first answer with this number says, if one is read before the end; nothing, if it is
malformed. -/
def Signal.answerTo? (id : Nat) : List Signal → Option (Option Rpc.Reply)
  | .line text :: rest =>
    match Rpc.Incoming.ofLine text with
    | .reply other content => if other = id then some content else answerTo? id rest
    | .other => answerTo? id rest
  | _ => none

/-! ## Waiting for an answer -/

namespace Router

variable {r : Router} {id : Nat} {signals : List Signal}

theorem closed_step_line (r : Router) (text : String) :
    (r.step (.line text)).closed = r.closed := by
  simp only [step]
  split
  · rfl
  · split
    · split <;> rfl
    · rfl

theorem closed_step_expire (r : Router) (id : Nat) : (r.step (.expire id)).closed = r.closed := by
  simp only [step]
  split
  · rfl
  · split <;> rfl

/-- What was handed to a request stays until the request takes it. -/
theorem phase_run_handed (h : r.Sound) {content : Option Rpc.Reply}
    (hp : r.phase id = .handed content) (hreading : ∀ signal ∈ signals, signal.IsReading) :
    (r.run signals).phase id = .handed content := by
  induction signals generalizing r with
  | nil => exact hp
  | cons signal rest ih =>
      obtain ⟨hfirst, hrest⟩ := List.forall_mem_cons.mp hreading
      refine ih (h.step signal) ?_ hrest
      rw [phase_step h, hp]
      rcases hfirst with ⟨text, rfl⟩ | rfl
      · simp only [move]
        split
        · rfl
        · split
          · split <;> rfl
          · rfl
      · simp only [move]
        split <;> rfl

/-- **A request that waits while output is read** gets the first answer with its number; without
one it goes on waiting, or learns that the output has ended. -/
theorem phase_run_waiting (h : r.Sound) (hopen : r.closed = false) (hp : r.phase id = .waiting)
    (hreading : ∀ signal ∈ signals, signal.IsReading) :
    match Signal.answerTo? id signals with
    | some content => (r.run signals).phase id = .handed content
    | none => (r.run signals).phase id = .handed none ∨ (r.run signals).phase id = .waiting := by
  induction signals generalizing r with
  | nil => exact .inr hp
  | cons signal rest ih =>
      obtain ⟨hfirst, hrest⟩ := List.forall_mem_cons.mp hreading
      have hsound := h.step signal
      have hphase := phase_step h id signal
      -- A line may be the answer; the end of the output is the end of all waiting.
      rcases hfirst with ⟨text, rfl⟩ | rfl
      · have hstill := (closed_step_line r text).trans hopen
        simp only [move, hp, hopen, Bool.false_eq_true, if_false] at hphase
        rw [Signal.answerTo?]
        cases hline : Rpc.Incoming.ofLine text with
        | other =>
            rw [hline] at hphase
            exact ih hsound hstill hphase hrest
        | reply other content =>
            rw [hline] at hphase
            dsimp only at hphase ⊢
            by_cases hid : other = id
            · rw [if_pos hid] at hphase ⊢
              exact phase_run_handed hsound hphase hrest
            · rw [if_neg hid] at hphase ⊢
              exact ih hsound hstill hphase hrest
      · simp only [move, hp, hopen, Bool.false_eq_true, if_false] at hphase
        exact .inl (phase_run_handed hsound hphase hrest)

end Router

namespace Client

variable {π : Type} [Peer π] {c : Client π}

/-! ## Clients in use -/

/-- The client was made for a peer, and requests and notifications were all that it was used for. -/
inductive Used : Client π → Prop
  | ofPeer (label : String) (timeout : Nat) (peer : π) : Used (.ofPeer label timeout peer)
  | request {c : Client π} (h : Used c) (method : String) (params : Option Value) :
      Used (c.request method params).2
  | notify {c : Client π} (h : Used c) (method : String) (params : Option Value) :
      Used (c.notify method params).2

theorem sound_post (h : c.router.Sound) (method : String) (params : Option Value) :
    (c.post method params).2.router.Sound := by
  rw [post]
  split
  · exact h.step .begin
  · exact (h.step .begin).step _

omit [Peer π] in
theorem sound_await (h : c.router.Sound) (id : Nat) (method : String) :
    (c.await id method).2.router.Sound := by
  show (c.drain.router.step (.expire id)).Sound
  exact (Router.sound_run h _).step _

theorem Used.sound (h : c.Used) : c.router.Sound := by
  induction h with
  | ofPeer label timeout peer => exact Router.sound_start
  | request _ method params ih => exact sound_await (sound_post ih method params) _ method
  | @notify c _ method params ih =>
      rw [Client.notify]
      split <;> exact ih

theorem Used.introduce (h : c.Used) : c.introduce.2.Used := by
  have hrequest := h.request "initialize" (some introduction)
  rw [Client.introduce]
  split
  · next hfailed => rwa [hfailed] at hrequest
  · next answered hok =>
      rw [hok] at hrequest
      have hnotify := hrequest.notify "notifications/initialized" none
      split
      · next hfailed => rwa [hfailed] at hnotify
      · next hdone => rwa [hdone] at hnotify

/-! ## One request -/

/-- What the peer's output says to a request that is about to be made: the first answer with its
number, unless it cannot be written or the output has ended before. -/
def replyTo (c : Client π) (method : String) (params : Option Value) :
    Option (Option Rpc.Reply) :=
  match (Peer.send c.peer (Rpc.Request.line ⟨some c.router.nextId, method, params⟩)).1 with
  | .ok out =>
    if c.router.closed then none else Signal.answerTo? c.router.nextId (c.hear out).readings
  | .error _ => none

omit [Peer π] in
/-- A request comes to what it stands at when its time is over. -/
theorem await_eq (h : c.router.Sound) {id : Nat} {p : Phase} {fate : Fate}
    (hp : (c.router.run c.readings).phase id = p) (hfate : p.expire = .returned fate)
    (method : String) : (c.await id method).1 = c.conclude method fate := by
  have hsound : c.drain.router.Sound := Router.sound_run h _
  have hreturned : (c.drain.router.step (.expire id)).phase id = .returned fate := by
    rw [Router.phase_step hsound, router_drain, hp, Router.move, if_pos rfl, hfate]
  show c.drain.conclude method (((c.drain.router.step (.expire id)).fate? id).getD .dropped) = _
  rw [Router.fate_of_phase hreturned]
  exact conclude_congr rfl rfl method fate

/-- **What becomes of a request** is told by what the peer's output says to it. -/
theorem exists_fate (h : c.router.Sound) (method : String) (params : Option Value) :
    ∃ fate, (c.request method params).1 = c.conclude method fate ∧
      ∀ reply, fate = .answered reply ↔ c.replyTo method params = some (some reply) := by
  have hbegun := h.step .begin
  have hwaiting : (c.router.step .begin).phase c.router.nextId = .waiting := by
    rw [Router.phase_step h, Router.move, if_pos rfl, (Router.unborn_iff h).mpr (Nat.le_refl _)]
    rfl
  rw [request, post, replyTo]
  cases Peer.send c.peer (Rpc.Request.line ⟨some c.router.nextId, method, params⟩) with
  | mk outcome peer =>
      cases outcome with
      | error reason =>
          have hfailed : ((c.router.step .begin).step
              (.writeFailed c.router.nextId reason)).phase c.router.nextId =
                .returned (.notWritten reason) := by
            rw [Router.phase_step hbegun, hwaiting, Router.move, if_pos rfl]
            rfl
          refine ⟨.notWritten reason, ?_, fun reply => by simp⟩
          exact (await_eq (hbegun.step _) (Router.phase_run_returned (hbegun.step _) hfailed _) rfl
            method).trans (conclude_congr rfl rfl method _)
      | ok out =>
          let posted : Client π := { c with peer := peer, router := c.router.step .begin }.hear out
          have hreading : ∀ signal ∈ posted.readings, signal.IsReading :=
            fun _ => isReading_of_mem_readings
          have hcomes {p : Phase} {fate : Fate}
              (hp : ((c.router.step .begin).run posted.readings).phase c.router.nextId = p)
              (hfate : p.expire = .returned fate) :
              (posted.await c.router.nextId method).1 = c.conclude method fate :=
            (await_eq hbegun hp hfate method).trans (conclude_congr rfl rfl method fate)
          dsimp only
          cases hclosed : c.router.closed with
          | true =>
              -- Nobody reads any more.
              have hstill := Router.run_of_closed (Router.closed_step hclosed .begin) hreading
              exact ⟨.timedOut, hcomes (hstill ▸ hwaiting) rfl, fun reply => by simp⟩
          | false =>
              have hopen : (c.router.step .begin).closed = false := hclosed
              have hgets := Router.phase_run_waiting hbegun hopen hwaiting hreading
              have hsame : (c.hear out).readings = posted.readings := rfl
              rw [if_neg Bool.false_ne_true, hsame]
              cases hanswer : Signal.answerTo? c.router.nextId posted.readings with
              | none =>
                  rw [hanswer] at hgets
                  rcases hgets with hended | hwaits
                  · exact ⟨.dropped, hcomes hended rfl, fun reply => by simp⟩
                  · exact ⟨.timedOut, hcomes hwaits rfl, fun reply => by simp⟩
              | some content =>
                  rw [hanswer] at hgets
                  cases content with
                  | none => exact ⟨.dropped, hcomes hgets rfl, fun reply => by simp⟩
                  | some reply => exact ⟨.answered reply, hcomes hgets rfl, fun reply => by simp⟩

/-- **What a request comes to.** An answer without an error gives its result. -/
theorem request_of_reply (h : c.router.Sound) {method : String} {params : Option Value}
    {reply : Rpc.Reply} (hreply : c.replyTo method params = some (some reply))
    (hok : reply.failure = none) : (c.request method params).1 = .ok (reply.result.getD .null) := by
  obtain ⟨fate, hrequest, hfate⟩ := exists_fate h method params
  rw [hrequest, (hfate reply).mpr hreply, conclude, hok]

/-- A request that gets an error, something malformed or nothing at all fails. -/
theorem exists_error_of_no_reply (h : c.router.Sound) {method : String} {params : Option Value}
    (hreply : ∀ reply, c.replyTo method params = some (some reply) → reply.failure ≠ none) :
    ∃ e, (c.request method params).1 = .error e := by
  obtain ⟨fate, hrequest, hfate⟩ := exists_fate h method params
  rw [hrequest]
  cases fate with
  | answered reply =>
      have hfailed := hreply reply ((hfate reply).mp rfl)
      obtain ⟨f, hf⟩ := Option.ne_none_iff_exists'.mp hfailed
      exact ⟨_, by rw [conclude, hf]⟩
  | notWritten reason => exact ⟨_, rfl⟩
  | timedOut => exact ⟨_, rfl⟩
  | dropped => exact ⟨_, rfl⟩

end Client

end ToolAgent
