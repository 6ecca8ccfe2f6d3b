import ToolAgent.Text.Basic
import ToolAgent.Text.Utf8

/-!
# Web addresses

An address has a scheme, and for the web a host and perhaps a port: `http://host:port/path`. This
module tells addresses that a request can be made to from those that are not well formed and those
of another scheme.
-/

namespace ToolAgent.Http

/-- What an address is good for. -/
inductive Address
  /-- A request can be made to it. -/
  | web
  /-- It is well formed, but of another scheme. -/
  | foreign
  /-- It is not well formed. -/
  | malformed
deriving DecidableEq, Repr

namespace Address

/-- Whether a character is trimmed from the ends of an address. -/
def isControlOrSpace (c : Char) : Bool := c.toNat ≤ 0x20

/-- The characters that count: none around the address, and no line breaks and tabs inside. -/
def essential (text : String) : List Char :=
  (Text.dropWhileEnd isControlOrSpace (text.toList.dropWhile isControlOrSpace)).filter fun c =>
    c ≠ '\t' && c ≠ '\n' && c ≠ '\r'

/-- The scheme in lower case, and what follows the colon. -/
def scheme? (cs : List Char) : Option (List Char × List Char) :=
  let name := cs.takeWhile fun c => c.isAlphanum || c = '+' || c = '-' || c = '.'
  match name, cs.drop name.length with
  | c :: _, ':' :: rest => if c.isAlpha then some (name.map Char.toLower, rest) else none
  | _, _ => none

/-- The host and the port as they are written, without a user's name. -/
def authority (cs : List Char) : List Char :=
  let whole := cs.takeWhile fun c => c ≠ '/' && c ≠ '\\' && c ≠ '?' && c ≠ '#'
  (whole.reverse.takeWhile (· ≠ '@')).reverse

/-- The value of digits to a base; nothing if another character is among them. -/
def valueOf? (base : Nat) (cs : List Char) : Option Nat :=
  cs.foldlM (fun n c =>
    let digit :=
      if c.isDigit then some (c.toNat - '0'.toNat)
      else if 'a' ≤ c ∧ c ≤ 'f' then some (c.toNat - 'a'.toNat + 10)
      else if 'A' ≤ c ∧ c ≤ 'F' then some (c.toNat - 'A'.toNat + 10)
      else none
    digit.bind fun d => if d < base then some (n * base + d) else none) 0

/-- Whether a text may be a port: nothing, or a number of 16 bits. -/
def isPort (cs : List Char) : Bool := (valueOf? 10 cs).any (· < Nat.pow 2 16)

/-- A part of a numeric host: hexadecimal, octal or decimal by its start. -/
def numericPart? : List Char → Option Nat
  | [] => none
  | '0' :: 'x' :: cs | '0' :: 'X' :: cs => valueOf? 16 cs
  | '0' :: cs => valueOf? 8 cs
  | cs => valueOf? 10 cs

/-- Whether the last of these parts makes a host numeric. -/
def looksNumeric (parts : List (List Char)) : Bool :=
  match parts.getLast? with
  | some part => part ≠ [] && (part.all Char.isDigit || (numericPart? part).isSome)
  | none => false

/-- Whether the parts are a numeric host: at most four, all but the last below 256. -/
def isNumericHost (parts : List (List Char)) : Bool :=
  match parts.mapM numericPart? with
  | none => false
  | some ns =>
    ns.length ≤ 4 && ns.dropLast.all (· < 256)
      && ns.getLast?.any (· < Nat.pow 256 (5 - ns.length))

/-- Whether a text is a host in brackets: groups of hexadecimal digits with colons between them, one
run of them perhaps left out. -/
def isBracketed (cs : List Char) : Bool :=
  let groups (cs : List Char) : Option Nat :=
    if cs = [] then some 0
    else
      let parts := cs.splitOn ':'
      if parts.all (fun p => 0 < p.length && p.length ≤ 4 && (valueOf? 16 p).isSome) then
        some parts.length
      else none
  match Text.cut? [':', ':'] cs with
  | none => groups cs = some 8
  | some (before, after) =>
    match groups before, groups after with
    | some n, some m => n + m ≤ 7
    | _, _ => false

/-- Characters that no host has. -/
def isForbidden (c : Char) : Bool :=
  c.toNat ≤ 0x20 || c.toNat = 0x7F
    || ['#', '/', ':', '<', '>', '?', '@', '[', '\\', ']', '^', '|', '%'].contains c

/-- Whether a text is a host. -/
def isHost (cs : List Char) : Bool :=
  let parts := cs.splitOn '.'
  let parts := if parts.getLast? = some [] && 1 < parts.length then parts.dropLast else parts
  cs ≠ [] && !cs.any isForbidden && (!looksNumeric parts || isNumericHost parts)

/-- Whether a text is a host and perhaps a port. -/
def isAuthority : List Char → Bool
  | '[' :: cs =>
    let inner := cs.takeWhile (· ≠ ']')
    match cs.drop inner.length with
    | [']'] => isBracketed inner
    | ']' :: ':' :: port => isBracketed inner && isPort port
    | _ => false
  | cs =>
    let host := cs.takeWhile (· ≠ ':')
    isHost host && isPort (cs.drop (host.length + 1))

/-- What an address is good for. -/
def ofText (text : String) : Address :=
  match scheme? (essential text) with
  | none => .malformed
  | some (scheme, rest) =>
    let named (ss : List String) := ss.any fun s => s.toList = scheme
    if named ["http", "https", "ws", "wss", "ftp"] then
      let place := rest.dropWhile fun c => c = '/' || c = '\\'
      if !isAuthority (authority place) then .malformed
      else if named ["http", "https"] then .web
      else .foreign
    else .foreign

end Address

end ToolAgent.Http
