import ToolAgent.Server.Client

/-!
# A server that follows a script

A scripted server logs every line that it reads, and answers each request with the next reply of its
script. Once the script has run out it ends its output.
-/

namespace ToolAgent

open Json (Value)

/-- What a scripted server does when a request reaches it. -/
structure ScriptedReply where
  /-- Lines to put out, with the number of the request in the place of `$ID`. -/
  lines : List String
  /-- Bytes to put out after them. -/
  raw : Bytes
  /-- Ends its output, and goes on reading. -/
  close : Bool
  /-- Ends its output and stops reading. -/
  closeRead : Bool

/-- A server with the rest of its script. -/
structure ScriptedServer where
  script : List ScriptedReply
  /-- Whether it can still put anything out. -/
  speaks : Bool
  reads : Bool
  /-- Every line it has read. -/
  received : List String

namespace ScriptedServer

/-- A server at the beginning of its script, open for reading and writing. -/
def start (script : List ScriptedReply) : ScriptedServer := ⟨script, true, true, []⟩

/-- The reply when the script has run out. -/
def lastReply : ScriptedReply := ⟨[], [], true, false⟩

/-- The number in a request. -/
def requestId? (line : String) : Option String :=
  match Json.parse line with
  | .ok v => (v.get? "id").map Value.text
  | .error _ => none

/-- What a reply puts out for a request. -/
def ScriptedReply.bytes (reply : ScriptedReply) (id : String) : Bytes :=
  (reply.lines.flatMap fun l => Utf8.ofString (Text.replace l "$ID" id ++ "\n")) ++ reply.raw

/-- Takes a line from the client: what the server puts out on it, or why it could not be written. -/
def react (s : ScriptedServer) (line : String) : Except String PeerOutput × ScriptedServer :=
  if !s.reads then (.error "broken pipe", s)
  else
    let s := { s with received := s.received ++ [line] }
    match requestId? line with
    | none => (.ok ⟨[], false⟩, s)
    | some id =>
      let reply := s.script.head?.getD lastReply
      let ends := reply.close || reply.closeRead
      (.ok ⟨if s.speaks then ScriptedReply.bytes reply id else [], ends⟩,
        { s with script := s.script.tail, speaks := s.speaks && !ends, reads := !reply.closeRead })

instance : Peer ScriptedServer where
  greeting s := (⟨[], false⟩, s)
  send s line := s.react line

end ScriptedServer

end ToolAgent
