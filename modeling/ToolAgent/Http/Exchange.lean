import ToolAgent.Http.Address
import ToolAgent.Json.Value

/-!
# Requests over HTTP and what comes back
-/

namespace ToolAgent.Http

/-- What a request does. -/
inductive Method
  | get
  | post
deriving DecidableEq, Repr

/-- A request to a web address. -/
structure Request where
  method : Method
  url : String
  /-- What is sent along, as JSON. -/
  body : Option Json.Value
deriving DecidableEq, Repr

/-- The answer to a request. -/
structure Answer where
  status : Nat
  /-- The body in the pieces in which it arrives. -/
  chunks : List Bytes
  /-- Whether the connection breaks before the end of the body. -/
  aborted : Bool
deriving DecidableEq, Repr

/-- A network, over which requests are made. -/
class Network (ν : Type) where
  /-- Makes a request to a web address: the answer, unless no connection comes about. -/
  fetch : ν → Request → Option Answer × ν

/-- A network that reaches nobody. -/
structure Nowhere where

instance : Network Nowhere where
  fetch n _ := (none, n)

/-! ### Statuses -/

/-- Whether the status says that the request succeeded. -/
def Answer.isSuccess (a : Answer) : Bool := 200 ≤ a.status && a.status < 300

/-- The statuses that have a name. -/
def statusNames : List (Nat × String) :=
  [(100, "Continue"), (101, "Switching Protocols"), (102, "Processing"), (200, "OK"),
   (201, "Created"), (202, "Accepted"), (203, "Non Authoritative Information"), (204, "No Content"),
   (205, "Reset Content"), (206, "Partial Content"), (207, "Multi-Status"),
   (208, "Already Reported"), (226, "IM Used"), (300, "Multiple Choices"),
   (301, "Moved Permanently"), (302, "Found"), (303, "See Other"), (304, "Not Modified"),
   (305, "Use Proxy"), (307, "Temporary Redirect"), (308, "Permanent Redirect"),
   (400, "Bad Request"), (401, "Unauthorized"), (402, "Payment Required"), (403, "Forbidden"),
   (404, "Not Found"), (405, "Method Not Allowed"), (406, "Not Acceptable"),
   (407, "Proxy Authentication Required"), (408, "Request Timeout"), (409, "Conflict"),
   (410, "Gone"), (411, "Length Required"), (412, "Precondition Failed"),
   (413, "Payload Too Large"), (414, "URI Too Long"), (415, "Unsupported Media Type"),
   (416, "Range Not Satisfiable"), (417, "Expectation Failed"), (418, "I'm a teapot"),
   (421, "Misdirected Request"), (422, "Unprocessable Entity"), (423, "Locked"),
   (424, "Failed Dependency"), (425, "Too Early"), (426, "Upgrade Required"),
   (428, "Precondition Required"), (429, "Too Many Requests"),
   (431, "Request Header Fields Too Large"), (451, "Unavailable For Legal Reasons"),
   (500, "Internal Server Error"), (501, "Not Implemented"), (502, "Bad Gateway"),
   (503, "Service Unavailable"), (504, "Gateway Timeout"), (505, "HTTP Version Not Supported"),
   (506, "Variant Also Negotiates"), (507, "Insufficient Storage"), (508, "Loop Detected"),
   (510, "Not Extended"), (511, "Network Authentication Required")]

/-- A status with its name. -/
def statusText (status : Nat) : String :=
  toString status ++ " " ++ (statusNames.lookup status).getD "<unknown status code>"

/-! ### Bodies -/

/-- The body as a text: without a byte order mark, and empty if it breaks off. -/
def Answer.text (a : Answer) : String :=
  if a.aborted then ""
  else match a.chunks.flatten with
    | 0xEF :: 0xBB :: 0xBF :: rest => Utf8.toStringLossy rest
    | bs => Utf8.toStringLossy bs

end ToolAgent.Http
