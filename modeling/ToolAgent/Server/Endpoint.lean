import ToolAgent.Server.Child
import ToolAgent.Server.Script

/-!
# The kinds of servers
-/

namespace ToolAgent

/-- A server that a client can be connected to. -/
inductive Endpoint
  | scripted (s : ScriptedServer)
  | child (p : ChildServer)

namespace Endpoint

instance : Peer Endpoint where
  greeting
    | scripted s => (Peer.greeting s).map id scripted
    | child p => (Peer.greeting p).map id child
  send
    | scripted s, line => (Peer.send s line).map id scripted
    | child p, line => (Peer.send p line).map id child

/-- The lines that a scripted server has read. -/
def received : Endpoint → List String
  | scripted s => s.received
  | child _ => []

end Endpoint

end ToolAgent
