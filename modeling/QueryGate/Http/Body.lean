import QueryGate.Http.Message
import QueryGate.Json.Encoding
import QueryGate.Payload.Reading
import QueryGate.Text.Blank
/-! The payload of a request. A body counts as JSON only if its content type says so. -/

namespace QueryGate

/-- Why a payload is refused. -/
inductive BodyFault
  | wrong (text : String)
  | unreadable
deriving DecidableEq, Repr

def BodyFault.message : BodyFault → String
  | .wrong text => "Invalid request payload: " ++ text
  | .unreadable => "There was an error parsing the body"

/-- Whether a content type stands for JSON. -/
def isJsonType (type : String) : Bool :=
  let name := lowerChars (trimBlanks (type.toList.takeWhile (· ≠ ';')))
  match name.dropWhile (· ≠ '/') with
  | '/' :: subtype =>
    name.takeWhile (· ≠ '/') = "application".toList && !subtype.contains '/'
      && (subtype = "json".toList || "nosj+".toList.isPrefixOf subtype.reverse)
  | _ => false

/-- The JSON in a body. -/
def readJsonBody (body : String) : Except BodyFault Json :=
  match decodeJsonBytes (encodeUtf8 body) with
  | .error _ => .error .unreadable
  | .ok text =>
    match Json.read text with
    | .ok j => .ok j
    | .error e =>
      match e.fault with
      | .longInteger _ | .deepArray | .deepObject => .error .unreadable
      | _ => .error (.wrong "JSON decode error")

/-- The text of an issue for a payload that came in a request. -/
def IssueKind.requestText : IssueKind → String
  | .notRecord _ => "Input should be a valid dictionary or object to extract fields from"
  | kind => kind.text

/-- Reads the payload of a request; of several issues the first is told. -/
def HttpRequest.payload {α : Type} (r : HttpRequest) (read : Json → Checked α) :
    Except BodyFault α :=
  if r.body.isEmpty then .error (.wrong IssueKind.absent.text)
  else if (r.header? "content-type").any isJsonType then do
    match read (← readJsonBody r.body) with
    | .ok a => .ok a
    | .wrong i _ => .error (.wrong i.kind.requestText)
  else .error (.wrong (IssueKind.notRecord "").requestText)

end QueryGate
