import QueryGate.Json.Writer
import QueryGate.Text.CaseMap
/-! Requests that reach the service over the network, and the replies to them. -/

namespace QueryGate

structure HttpRequest where
  method : String
  /-- The path with its percent encoding undone. -/
  path : String
  query : List (String × String)
  headers : List (String × String)
  body : String

structure HttpReply where
  status : Nat
  contentType : Option String
  body : String
  /-- The id that the caller can name the request by. -/
  requestId : Option String := none
  /-- The origin whose pages may read the reply. -/
  allowOrigin : Option String := none
deriving DecidableEq

/-- The first header of a name, in whichever case. -/
def HttpRequest.header? (r : HttpRequest) (name : String) : Option String :=
  (r.headers.find? (fun (n, _) => toLowerText n = toLowerText name)).map (·.2)

def jsonType : String := "application/json"

def jsonReply (status : Nat) (body : String) : HttpReply :=
  { status, contentType := some jsonType, body }

/-- A reply that tells what went wrong. -/
def errorReply (status : Nat) (message : String) : HttpReply :=
  jsonReply status (Json.object [("error", .string message)]).compact

/-- The path as a log line names it: up to a mark that ends a path, without line breaks and tabs. -/
def HttpRequest.loggedPath (r : HttpRequest) : String :=
  let inside (c : Char) : Bool := c ≠ '?' && c ≠ '#'
  String.ofList ((r.path.toList.takeWhile inside).filter (· ∉ ['\t', '\r', '\n']))

end QueryGate
