import QueryGate.Http.Body
import QueryGate.Http.Route
import QueryGate.Query.Encoding
import QueryGate.Service.Batch
import QueryGate.Service.Health
import QueryGate.Service.Resource
/-! Answering requests. Every failure becomes a reply that tells no more than its one-line text, and
the id of a request stands on each line logged while it is served. -/

namespace QueryGate

variable {σ : Type}

def gatewayLogger : String := "api"

/-- The services behind the paths. -/
structure Gateway (σ : Type) where
  plan : ServicePlan
  handle : Handle σ

/-- The queries of a batch, each a mapping that is looked at later. -/
def readBatchRequest (j : Json) : Checked (List Json) :=
  (readRecord "BatchQueryRequest" j).andThen fun m =>
    fieldOr m ["queries"] [] (readList fun q => (readObject q).map .object)

def modelReply (j : Json) : HttpReply :=
  jsonReply 200 j.compact

def resultsJson (results : Members Response) : Json :=
  .object [("results", .object (results.map fun (key, r) => (key, r.toJson)))]

/-- Serves a payload that could be read. -/
def withPayload {α : Type} (payload : Except BodyFault α) (serve : α → Act σ HttpReply) :
    Act σ HttpReply :=
  match payload with
  | .ok a => serve a
  | .error fault => return errorReply 400 fault.message

/-- A page about the service. Its text is made from the other endpoints and is left out here. -/
def pageReply (path : String) : HttpReply :=
  { status := 200
    contentType := some (if path = "/openapi.json" then jsonType else "text/html; charset=utf-8")
    body := "" }

/-- Lets a service answer; what fails is raised. -/
def Gateway.serve (g : Gateway σ) (endpoint : Endpoint) (r : HttpRequest) : Act σ HttpReply :=
  match endpoint with
  | .query => withPayload (r.payload Request.read) fun request => do
    return modelReply (← executeQuery g.plan g.handle request).toJson
  | .batch => withPayload (r.payload readBatchRequest) fun queries => do
    return modelReply (resultsJson (← queryData g.plan g.handle queries))
  | .health => do
    return modelReply (← checkHealth g.handle g.plan.timeout).toJson
  | .resource name => do
    let names ← callResource g.handle g.plan.timeout g.plan.catalog name (Members.ofList r.query)
    return jsonReply 200 (← givenOrFail (Cell.list (names.map .text)).body)
  | .page path => return pageReply path

/-- Turns a failure into a reply; a fault goes on. -/
def failuresAnswered (path : String) (act : Act σ HttpReply) : Act σ HttpReply := do
  match ← Act.caught act with
  | .ok reply => return reply
  | .error (.failure f) =>
    Act.log .warning gatewayLogger
      (path ++ " failed (" ++ f.code.label ++ "): " ++ f.safe)
    return errorReply f.status f.safe
  | .error (.fault f) => Act.raise (.fault f)

def Gateway.route (g : Gateway σ) (r : HttpRequest) : Act σ HttpReply :=
  match Routing.of r.method r.path with
  | .serve endpoint => failuresAnswered r.loggedPath (g.serve endpoint r)
  | .wrongMethod => return errorReply 405 "Method Not Allowed"
  | .redirect _ => return { status := 307, contentType := none, body := "" }
  | .nowhere => return errorReply 404 "Invalid endpoint"

def browserMethods : List String :=
  ["DELETE", "GET", "HEAD", "OPTIONS", "PATCH", "POST", "PUT"]

/-- What a browser is told that asks before it sends a request. -/
def preflightReply (origin method : String) : HttpReply :=
  let allowed := browserMethods.contains method
  { status := if allowed then 200 else 400
    contentType := some "text/plain; charset=utf-8"
    body := if allowed then "OK" else "Disallowed CORS method"
    allowOrigin := some origin }

/-- Pages of every origin may read a reply. -/
def Gateway.sharedAcrossOrigins (g : Gateway σ) (r : HttpRequest) : Act σ HttpReply := do
  match r.header? "origin" with
  | none => g.route r
  | some origin =>
    match r.method, r.header? "access-control-request-method" with
    | "OPTIONS", some method => return preflightReply origin method
    | _, _ => return { ← g.route r with allowOrigin := some origin }

/-- The id that a request brings along, or a fresh one. -/
def HttpRequest.idOr (r : HttpRequest) (fresh : String) : String :=
  match r.header? "x-request-id" with
  | some id => if id.isEmpty then fresh else id
  | none => fresh

/-- Serves a request under its id. What it crashes with is logged and not told. -/
def Gateway.traced (g : Gateway σ) (fresh : String) (r : HttpRequest) : Act σ HttpReply := do
  let id := r.idOr fresh
  match ← Act.caught (Act.traced id (g.sharedAcrossOrigins r)) with
  | .ok reply => return { reply with requestId := some id }
  | .error e =>
    Act.log .error gatewayLogger ("Unhandled error on " ++ r.loggedPath ++ ": " ++ e.message)
    return errorReply 500 "Internal server error"

/-- The reply to a request. A request for the head alone gets no body. -/
def Gateway.answer (g : Gateway σ) (fresh : String) (r : HttpRequest) : Act σ HttpReply := do
  let reply ← g.traced fresh r
  return if r.method = "HEAD" then { reply with body := "" } else reply

/-- Answers requests in order and then lets go of the handle. -/
def Gateway.session (g : Gateway σ) (fresh : String) (requests : List HttpRequest) :
    Act σ (List HttpReply) :=
  Act.andFinally (requests.mapM (g.answer fresh)) g.handle.dispose

end QueryGate
