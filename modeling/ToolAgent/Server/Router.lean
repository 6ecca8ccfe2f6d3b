import ToolAgent.Server.Rpc

/-!
# Which reply goes to which request

A client may have several requests under way, and the replies arrive in any order. The router is
the state that the requests share with the reader of the server's output: requests register, the
reader hands each reply to the request it names, and a request takes what was handed to it or gives
up. `Router.run` follows any order of such happenings.
-/

namespace ToolAgent

/-- How a request returned. -/
inductive Fate
  | answered (reply : Rpc.Reply)
  /-- The request could not be written. -/
  | notWritten (reason : String)
  | timedOut
  /-- The connection was closed, or the reply was malformed. -/
  | dropped
deriving DecidableEq, Repr

/-- What the reader hands to a request: a reply, or nothing if there will be none. -/
def Fate.ofMail : Option Rpc.Reply → Fate
  | some reply => .answered reply
  | none => .dropped

/-- What can happen between requests and reader. -/
inductive Signal
  /-- A request registers, under the next number. -/
  | begin
  /-- Writing a request failed. -/
  | writeFailed (id : Nat) (reason : String)
  /-- A line of the server's output is read. -/
  | line (text : String)
  /-- A request takes what was handed to it. -/
  | look (id : Nat)
  /-- A request has waited long enough. -/
  | expire (id : Nat)
  /-- The server's output has ended, or cannot be read. -/
  | close
deriving DecidableEq, Repr

/-- Requests and what became of them. -/
structure Router where
  /-- The number of the next request. It stands for a counter of 64 bits, which wraps around only
  after 2^64 requests. -/
  nextId : Nat
  /-- Requests that a reply can still be handed to. -/
  pending : List Nat
  /-- What was handed to requests that have not taken it yet. -/
  mail : List (Nat × Option Rpc.Reply)
  /-- Requests that returned, and how. -/
  returned : List (Nat × Fate)
  /-- Whether the reader has stopped. -/
  closed : Bool
deriving DecidableEq, Repr

namespace Router

/-- A router before its first request. -/
def start : Router := ⟨0, [], [], [], false⟩

/-- The pending requests but one. -/
def withoutPending (r : Router) (id : Nat) : Router :=
  { r with pending := r.pending.filter (· ≠ id) }

/-- A request returns, and leaves nothing behind. -/
def finish (r : Router) (id : Nat) (fate : Fate) : Router :=
  { r.withoutPending id with
    mail := r.mail.filter (·.1 ≠ id)
    returned := r.returned ++ [(id, fate)] }

/-- Hands something to a pending request. -/
def deliver (r : Router) (id : Nat) (content : Option Rpc.Reply) : Router :=
  { r.withoutPending id with mail := r.mail ++ [(id, content)] }

/-- Whether a request has neither returned nor got anything. -/
def isPending (r : Router) (id : Nat) : Bool := r.pending.contains id

/-- One happening. -/
def step (r : Router) : Signal → Router
  | .begin => { r with nextId := r.nextId + 1, pending := r.pending ++ [r.nextId] }
  | .writeFailed id reason =>
    if r.isPending id || (r.mail.lookup id).isSome then r.finish id (.notWritten reason) else r
  | .line text =>
    if r.closed then r
    else match Rpc.Incoming.ofLine text with
      | .reply id content => if r.isPending id then r.deliver id content else r
      | .other => r
  | .look id =>
    match r.mail.lookup id with
    | some content => r.finish id (.ofMail content)
    | none => r
  | .expire id =>
    match r.mail.lookup id with
    | some content => r.finish id (.ofMail content)
    | none => if r.isPending id then r.finish id .timedOut else r
  | .close =>
    if r.closed then r
    else { r with
      pending := []
      mail := r.mail ++ r.pending.map fun id => (id, none)
      closed := true }

/-- One happening after the other. -/
def run (r : Router) (signals : List Signal) : Router := signals.foldl step r

/-- How a request returned, if it has. -/
def fate? (r : Router) (id : Nat) : Option Fate := r.returned.lookup id

end Router

end ToolAgent
