import ToolAgent.Proofs.Asking
import ToolAgent.Proofs.Server.Replying

/-!
# What is sent to a server

A request sends one line to the peer and takes the next number, whatever comes of it. So after
requests one after the other, the peer has heard exactly their lines, in order.

* `Peer.told` — a peer that has heard some lines.
* `Client.peer_requestAll` — what the peer has heard after requests.
-/

namespace ToolAgent

open Json (Value)

variable {π : Type}

/-! ## Reading -/

theorem Router.nextId_run {r : Router} {signals : List Signal}
    (h : ∀ signal ∈ signals, signal.IsReading) : (r.run signals).nextId = r.nextId := by
  induction signals generalizing r with
  | nil => rfl
  | cons signal rest ih =>
      obtain ⟨hfirst, hrest⟩ := List.forall_mem_cons.mp h
      have hstep : (r.step signal).nextId = r.nextId := by
        rw [nextId_step, if_neg]
        rcases hfirst with ⟨_, rfl⟩ | rfl <;> simp
      exact (ih hrest).trans hstep

/-! ## What a peer hears -/

variable [Peer π]

/-- A peer after these lines were sent to it. -/
def Peer.told (peer : π) (lines : List String) : π :=
  lines.foldl (fun peer line => (Peer.send peer line).2) peer

namespace Client

/-- **A request sends one line**, with the next number. -/
theorem peer_request (c : Client π) (method : String) (params : Option Value) :
    (c.request method params).2.peer =
      (Peer.send c.peer (Rpc.Request.line ⟨some c.router.nextId, method, params⟩)).2 := by
  rw [request, post]
  dsimp only
  cases Peer.send c.peer (Rpc.Request.line ⟨some c.router.nextId, method, params⟩) with
  | mk outcome peer => cases outcome <;> rfl

omit [Peer π] in
theorem nextId_await (c : Client π) (id : Nat) (method : String) :
    (c.await id method).2.router.nextId = c.router.nextId := by
  show (c.drain.router.step (.expire id)).nextId = c.router.nextId
  rw [Router.nextId_step, if_neg (by simp), router_drain,
    Router.nextId_run fun _ => isReading_of_mem_readings]

theorem nextId_post (c : Client π) (method : String) (params : Option Value) :
    (c.post method params).2.router.nextId = c.router.nextId + 1 := by
  rw [post]
  split
  · rfl
  · exact Router.nextId_step _ _

/-- A request takes the next number. -/
theorem nextId_request (c : Client π) (method : String) (params : Option Value) :
    (c.request method params).2.router.nextId = c.router.nextId + 1 := by
  rw [request, nextId_await, nextId_post]

/-- Makes requests one after the other. -/
def requestAll (c : Client π) (requests : List (String × Option Value)) :
    List (Except Error Value) × Client π :=
  askAll (fun c r => c.request r.1 r.2) c requests

omit [Peer π] in
/-- The lines of requests that a client makes one after the other. -/
def lines (c : Client π) (requests : List (String × Option Value)) : List String :=
  (requests.zipIdx c.router.nextId).map fun (r, id) => Rpc.Request.line ⟨some id, r.1, r.2⟩

theorem lines_cons (c : Client π) (request : String × Option Value)
    (rest : List (String × Option Value)) :
    c.lines (request :: rest) =
      Rpc.Request.line ⟨some c.router.nextId, request.1, request.2⟩ ::
        (c.request request.1 request.2).2.lines rest := by
  rw [lines, lines, List.zipIdx_cons, nextId_request]
  rfl

/-- **What a peer has heard after requests** is their lines, each once and in order. -/
theorem peer_requestAll (c : Client π) (requests : List (String × Option Value)) :
    (c.requestAll requests).2.peer = Peer.told c.peer (c.lines requests) := by
  induction requests generalizing c with
  | nil => rfl
  | cons request rest ih =>
      rw [requestAll, askAll_cons, lines_cons]
      refine (ih _).trans ?_
      rw [peer_request]
      rfl

end Client

end ToolAgent
