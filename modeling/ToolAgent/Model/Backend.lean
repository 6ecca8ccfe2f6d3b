import ToolAgent.Http.Exchange
import ToolAgent.Model.Decoder
import ToolAgent.Model.Wire

/-!
# The model backend

The model runs behind an HTTP server. A conversation is posted to it, and the answer is streamed
back; another request lists the models that it has.
-/

namespace ToolAgent

open Json (Value)
open Json.Read (Record field need)

/-- A backend, by the address of its server. -/
structure Backend (ν : Type) where
  baseUrl : String
  network : ν

namespace Backend

variable {ν : Type} [Http.Network ν]

/-- The kind of backend. -/
def name : String := "ollama"

/-- The words for an address that is of no use for a request. -/
def addressFault (url : String) : Http.Address → Option String
  | .web => none
  | .foreign => some ("builder error for url (" ++ url ++ ")")
  | .malformed => some "builder error"

/-- Makes a request for `path`: the answer, or why there is none. -/
def fetch (b : Backend ν) (method : Http.Method) (path : String) (body : Option Value) :
    Except Error Http.Answer × Backend ν :=
  let url := b.baseUrl ++ path
  match addressFault url (.ofText url) with
  | some text => (.error (.http text), b)
  | none =>
    let (answer, network) := Http.Network.fetch b.network ⟨method, url, body⟩
    (match answer with
      | some a => .ok a
      | none =>
        .error (.transport ("Cannot connect to Ollama at " ++ b.baseUrl ++ ". Is it running?")),
      { b with network })

/-! ### Chat -/

/-- Why an answer is no stream of events. -/
def refusal (model : String) (a : Http.Answer) : Error :=
  if a.status = 404 && Text.contains a.text "not found" then .modelNotFound model
  else .transport ("Ollama API error (" ++ Http.statusText a.status ++ "): " ++ a.text)

/-- The events of an answer. One that breaks off ends with an error; nothing follows an error. -/
def events (a : Http.Answer) : EventStream :=
  if a.aborted then
    let arrived := (Decoder.start.pushAll a.chunks).1
    if arrived.all Except.isOk then
      arrived ++ [.error (.transport "Stream error: error decoding response body")]
    else arrived
  else Decoder.decode a.chunks

/-- Sends a conversation. -/
def send (b : Backend ν) (request : ChatRequest) : Except Error EventStream × Backend ν :=
  match b.fetch .post "/api/chat" (some (Wire.body request)) with
  | (.error e, b) => (.error e, b)
  | (.ok a, b) => (if a.isSuccess then .ok (events a) else .error (refusal request.model a), b)

/-! ### Models -/

/-- A model while it is being read. -/
structure ModelDraft where
  name : Option String

/-- How a model is read from a list of models: by its name alone. -/
def modelRecord : Record ModelDraft String where
  what := "a model"
  whatCounted := "a model with 1 element"
  fields := [field "name" Json.Read.string ModelDraft.name (fun a _ => ⟨some a⟩)]
  start := ⟨none⟩
  finish absence d := need absence 0 "name" d.name

/-- A list of models while it is being read. -/
structure ModelsDraft where
  models : Option (List String)

/-- How a list of models is read. -/
def modelsRecord : Record ModelsDraft (List String) where
  what := "a list of models"
  whatCounted := "a list of models with 1 element"
  fields := [field "models" (Json.Read.list modelRecord.read) ModelsDraft.models
    (fun a _ => ⟨some a⟩)]
  start := ⟨none⟩
  finish absence d := need absence 0 "models" d.models

/-- The names of the models in an answer. -/
def readModels (a : Http.Answer) : Except Error (List String) :=
  if !a.isSuccess then .error (.transport "Failed to list models")
  else
    let names? := if a.aborted then none
      else (Utf8.toString? a.chunks.flatten).bind fun text =>
        (Json.readText modelsRecord.read text).toOption
    match names? with
    | some names => .ok names
    | none => .error (.http "error decoding response body")

/-- Lists the models. -/
def models (b : Backend ν) : Except Error (List String) × Backend ν :=
  match b.fetch .get "/api/tags" none with
  | (.error e, b) => (.error e, b)
  | (.ok a, b) => (readModels a, b)

end Backend

instance [Http.Network ν] : ChatModel (Backend ν) where
  name _ := Backend.name
  send := Backend.send
  models := Backend.models

end ToolAgent
