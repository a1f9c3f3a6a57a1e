import QueryGate.Http.Message
import QueryGate.Text.Blank
/-! Which service a path leads to, and with which method. -/

namespace QueryGate

inductive Endpoint
  | query
  | batch
  | health
  | resource (name : String)
  /-- A page that describes the other endpoints. -/
  | page (path : String)
deriving DecidableEq, Repr

def apiRoot : String := "/api/v1"

/-- The paths of the pages that come with every service. -/
def pagePaths : List String :=
  ["/openapi.json", "/docs", "/docs/oauth2-redirect", "/redoc"]

def Endpoint.methods : Endpoint → List String
  | .query | .batch => ["POST"]
  | .health | .resource _ => ["GET"]
  | .page _ => ["GET", "HEAD"]

def afterPrefix? (start text : List Char) : Option (List Char) :=
  if start.isPrefixOf text then some (text.drop start.length) else none

/-- A line break at the very end of a path does not count. -/
def dropLastBreak (cs : List Char) : List Char :=
  if cs.getLast? = some '\n' then cs.dropLast else cs

/-- The page at a path without a line break at its end. -/
def Endpoint.pageAt? (path : List Char) : Option Endpoint :=
  if pagePaths.contains (String.ofList path) then some (.page (String.ofList path)) else none

/-- The service at a path. A resource may have any name on a single line. -/
def Endpoint.at? (path : String) : Option Endpoint :=
  let cs := dropLastBreak path.toList
  match afterPrefix? apiRoot.toList cs with
  | none => Endpoint.pageAt? cs
  | some rest =>
    match String.ofList rest with
    | "/query" => some .query
    | "/query/batch" => some .batch
    | "/health" => some .health
    | _ =>
      match afterPrefix? "/resources/".toList rest with
      | some name => if name.contains '\n' then none else some (.resource (String.ofList name))
      | none => none

/-- The same path with a slash at its end, or without the slashes there. -/
def otherEnding (path : String) : String :=
  if path.toList.getLast? = some '/' then String.ofList (trimEndOf (· = '/') path.toList)
  else path ++ "/"

inductive Routing
  | serve (endpoint : Endpoint)
  | wrongMethod
  | redirect (path : String)
  | nowhere
deriving DecidableEq, Repr

/-- A path that leads to a service only with the other ending is sent there. -/
def Routing.of (method path : String) : Routing :=
  match Endpoint.at? path with
  | some endpoint => if endpoint.methods.contains method then .serve endpoint else .wrongMethod
  | none =>
    if path ≠ "/" && (Endpoint.at? (otherEnding path)).isSome then .redirect (otherEnding path)
    else .nowhere

end QueryGate
