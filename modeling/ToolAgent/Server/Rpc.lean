import ToolAgent.Json.Reader

/-!
# Requests and replies of a server

Client and server exchange lines of JSON-RPC 2.0. A request carries a number that its reply
repeats; a notification has none.
-/

namespace ToolAgent.Rpc

open Json (Value Reader)
open Json.Read (Record field need)

/-! ### What the client writes -/

/-- A request with its number, or a notification without one. -/
structure Request where
  id : Option Nat
  method : String
  params : Option Value
deriving DecidableEq, Repr

/-- The members of a request, in the order in which they are written. -/
def Request.members (r : Request) : List (String × Value) :=
  [("jsonrpc", .string "2.0")]
    ++ (match r.id with
      | some n => [("id", .ofNat n)]
      | none => [])
    ++ [("method", .string r.method)]
    ++ match r.params with
      | some v => [("params", v)]
      | none => []

/-- A request on a line. -/
def Request.line (r : Request) : String :=
  let members := r.members.map fun (k, v) => Json.quote k ++ ":" ++ v.text
  "\x7b" ++ String.intercalate "," members ++ "\x7d\n"

/-! ### What the client reads -/

/-- What the server says when a request fails. -/
structure Failure where
  code : Int
  message : String
deriving DecidableEq, Repr

namespace Failure

/-- A failure that is being read. -/
structure Draft where
  code : Option Int
  message : Option String

/-- How a failure is read: both fields must be there. -/
def record : Record Draft Failure where
  what := "struct JsonRpcError"
  whatCounted := "struct JsonRpcError with 2 elements"
  fields := [
    field "code" (Json.Read.integer "i64" (-0x8000000000000000) 0x7FFFFFFFFFFFFFFF) Draft.code
      (fun a d => { d with code := some a }),
    field "message" Json.Read.string Draft.message (fun a d => { d with message := some a })]
  start := ⟨none, none⟩
  finish absence d := do
    let code ← need absence 0 "code" d.code
    let message ← need absence 1 "message" d.message
    return ⟨code, message⟩

end Failure

/-- What the server answers to a request. -/
structure Reply where
  result : Option Value
  failure : Option Failure
deriving DecidableEq, Repr

namespace Reply

/-- A reply that is being read. -/
structure Draft where
  result : Option (Option Value)
  failure : Option (Option Failure)

/-- How a reply is read: it has a result or a failure, or neither. -/
def record : Record Draft Reply where
  what := "struct JsonRpcResponse"
  whatCounted := "struct JsonRpcResponse with 2 elements"
  fields := [
    field "result" (Json.Read.option Json.Read.value) Draft.result
      (fun a d => { d with result := some a }),
    field "error" (Json.Read.option Failure.record.read) Draft.failure
      (fun a d => { d with failure := some a })]
  start := ⟨none, none⟩
  finish _ d := .ok ⟨d.result.getD none, d.failure.getD none⟩

/-- A well-formed reply, if the value is one. -/
def ofJson? (v : Value) : Option Reply := (record.read (.given v)).toOption

end Reply

/-- What a line of the server's output is. -/
inductive Incoming
  /-- The answer to the request with this number; nothing if it is malformed. -/
  | reply (id : Nat) (content : Option Reply)
  /-- Blank, not JSON, a notification, or a request of the server's own. -/
  | other
deriving DecidableEq, Repr

/-- A value is an answer if it carries a result or an error, and the number of a request. -/
def Incoming.ofJson (v : Value) : Incoming :=
  match (v.get? "id").bind Value.asNat?, (v.get? "result").isSome || (v.get? "error").isSome with
  | some id, true => .reply id (Reply.ofJson? v)
  | _, _ => .other

/-- Reads a line. -/
def Incoming.ofLine (line : String) : Incoming :=
  match Json.parse line with
  | .ok v => .ofJson v
  | .error _ => .other

end ToolAgent.Rpc
