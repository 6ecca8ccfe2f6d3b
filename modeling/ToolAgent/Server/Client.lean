import ToolAgent.Error
import ToolAgent.Identity
import ToolAgent.Server.Listing
import ToolAgent.Server.Router
import ToolAgent.Text.Quoted
import ToolAgent.Text.Utf8

/-!
# The client of one server

A client writes requests to its peer, one on a line, and reads the lines that come back. What the
peer puts out waits in the inbox until the client next waits for a reply.
-/

namespace ToolAgent

open Json (Value)

/-- What a peer puts out. -/
structure PeerOutput where
  bytes : Bytes
  /-- Whether nothing will follow. -/
  ended : Bool

/-- A peer of a client: a program that reads lines and puts out bytes. -/
class Peer (π : Type) where
  /-- What it puts out before anything is sent to it. -/
  greeting : π → PeerOutput × π
  /-- Sends it a text: what it puts out in answer, or why the text cannot be written. -/
  send : π → String → Except String PeerOutput × π

/-- A client with its peer. -/
structure Client (π : Type) where
  /-- The name of the server in messages. -/
  label : String
  /-- How many milliseconds a request may take. -/
  timeout : Nat
  peer : π
  /-- Output of the peer that was not read yet. -/
  inbox : Bytes
  /-- Whether the peer's output ends with the inbox. -/
  inboxEnds : Bool
  router : Router

/-! ### Lines -/

/-- What a line means to the router; reading stops at one that is no text. -/
def Signal.ofBytes (line : Bytes) : Signal :=
  match Utf8.toString? line with
  | some text => .line text
  | none => .close

/-- A number of milliseconds with its unit: seconds from one second on. -/
def durationText (ms : Nat) : String :=
  if ms = 0 then "0ns"
  else if ms < 1000 then toString ms ++ "ms"
  else
    let places := (Nat.toDigits 10 (ms % 1000 + 1000)).drop 1
    let fraction := (places.reverse.dropWhile (· == '0')).reverse
    toString (ms / 1000) ++ (if fraction = [] then "" else "." ++ String.ofList fraction) ++ "s"

namespace Client

variable {π : Type} [Peer π]

/-- A client of a peer. -/
def ofPeer (label : String) (timeout : Nat) (peer : π) : Client π :=
  let (out, peer) := Peer.greeting peer
  ⟨label, timeout, peer, out.bytes, out.ended, .start⟩

/-- Reads the inbox. -/
def drain (c : Client π) : Client π :=
  let (lines, rest) := Text.completeLines (· == 10) c.inbox
  let signals := lines.map Signal.ofBytes
    ++ if c.inboxEnds then (if rest = [] then [] else [Signal.ofBytes rest]) ++ [.close] else []
  { c with inbox := if c.inboxEnds then [] else rest, router := c.router.run signals }

/-- Adds output of the peer to the inbox. -/
def hear (c : Client π) (out : PeerOutput) : Client π :=
  { c with inbox := c.inbox ++ out.bytes, inboxEnds := c.inboxEnds || out.ended }

/-- Starts a request: its number, and the client after writing it. -/
def post (c : Client π) (method : String) (params : Option Value) : Nat × Client π :=
  let id := c.router.nextId
  let router := c.router.step .begin
  match Peer.send c.peer (Rpc.Request.line ⟨some id, method, params⟩) with
  | (.ok out, peer) => (id, { c with peer := peer, router := router }.hear out)
  | (.error reason, peer) =>
    (id, { c with peer := peer, router := router.step (.writeFailed id reason) })

/-- What a request comes to. -/
def conclude (c : Client π) (method : String) : Fate → Except Error Value
  | .answered reply =>
    match reply.failure with
    | some f =>
      .error (.server (c.label ++ ": " ++ method ++ " failed (" ++ toString f.code ++ "): "
        ++ f.message))
    | none => .ok (reply.result.getD .null)
  | .notWritten reason => .error (.io reason)
  | .timedOut =>
    .error (.server (c.label ++ ": " ++ method ++ " timed out after " ++ toString (c.timeout / 1000)
      ++ "s"))
  | .dropped =>
    .error (.server (c.label ++ ": connection closed while waiting for " ++ method))

/-- Waits for a request to return. -/
def await (c : Client π) (id : Nat) (method : String) : Except Error Value × Client π :=
  let c := c.drain
  let c := { c with router := c.router.step (.expire id) }
  (c.conclude method ((c.router.fate? id).getD .dropped), c)

/-- A request from start to end. -/
def request (c : Client π) (method : String) (params : Option Value) :
    Except Error Value × Client π :=
  let (id, c) := c.post method params
  c.await id method

/-- Tells the peer something. -/
def notify (c : Client π) (method : String) (params : Option Value) :
    Except Error Unit × Client π :=
  match Peer.send c.peer (Rpc.Request.line ⟨none, method, params⟩) with
  | (.ok out, peer) => (.ok (), { c with peer := peer }.hear out)
  | (.error reason, peer) => (.error (.io reason), { c with peer := peer })

/-- A client in one line. -/
def debugText (c : Client π) : String :=
  String.join ["CustomToolClient \x7b server_name: ", Text.Quoted.quote c.label, ", timeout: ",
    durationText c.timeout, ", .. \x7d"]

/-! ### What a client asks for -/

/-- What the client says of itself at the start. -/
def introduction : Value :=
  .object [("capabilities", .object []),
    ("clientInfo", .object [("name", .string programName), ("version", .string programVersion)]),
    ("protocolVersion", .string "2024-11-05")]

/-- Starts the exchange with the server: what it says of itself. -/
def introduce (c : Client π) : Except Error Value × Client π :=
  match c.request "initialize" (some introduction) with
  | (.error e, c) => (.error e, c)
  | (.ok v, c) =>
    match c.notify "notifications/initialized" none with
    | (.error e, c) => (.error e, c)
    | (.ok (), c) => (.ok v, c)

/-- All tools of the server, on at most `pages` pages; nothing if there are more. -/
def listTools (pages : Nat) (c : Client π) : Option (Except Error (List ToolSpec)) × Client π :=
  Listing.follow (fun c params => c.request Listing.method params) pages c none

end Client

end ToolAgent
