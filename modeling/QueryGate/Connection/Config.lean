import QueryGate.Failure
import QueryGate.Json.Encoding
import QueryGate.Number.FloatText
import QueryGate.Payload.Reading
import QueryGate.Text.Literal
import QueryGate.Text.Percent
/-! The settings of a connection, read from a payload with a secret beside it, and the URL of the
engine. The credential is shown neither in the name of a config nor in its description or its data. -/

namespace QueryGate

structure ConnectionConfig where
  host : String
  httpPath : String
  catalog : String
  credential : String
  rowCap : Nat
  statementTimeout : Amount
  retryCount : Nat
  retryPause : Amount
  retryTimeout : Amount
  /-- A URL in place of the one that is put together. -/
  url : Option String
  debug : Bool

def readNat (bound : Nat) (j : Json) : Checked Nat :=
  (readIntegerFrom bound j).map Int.toNat

def readPositiveAmount (j : Json) : Checked Amount :=
  (readPositiveNumber j).map .real

def readAmountFromZero (j : Json) : Checked Amount :=
  (readNumberFromZero j).map .real

/-- Each setting may be called by its short name or by its long one; the short one wins. -/
def ConnectionConfig.read (j : Json) : Checked ConnectionConfig :=
  (readRecord "ConnectionConfig" j).andThen fun m =>
    ConnectionConfig.mk <$> fieldOr m ["host"] "" readText
      <*> fieldOr m ["path", "http_path"] "" readText
      <*> fieldOr m ["catalog"] "" readText
      <*> fieldOr m ["credential"] "" readText
      <*> fieldOr m ["maxRows", "row_cap"] 10000 (readNat 0)
      <*> fieldOr m ["timeout", "statement_timeout"] (.whole 60) readPositiveAmount
      <*> fieldOr m ["retries", "retry_count"] 5 (readNat 0)
      <*> fieldOr m ["pause", "retry_pause"] (.whole 0) readAmountFromZero
      <*> fieldOr m ["retryTimeout", "retry_timeout"] (.whole 40) readAmountFromZero
      <*> fieldOr m ["sqlalchemyUrl", "sqlalchemy_url"] none (readOptional readText)
      <*> fieldOr m ["debug"] false readBoolean

/-- A payload of settings: none, bytes, a text, or members that are decoded already. -/
inductive SettingsPayload
  | absent
  | bytes (bs : List UInt8)
  | text (s : String)
  | members (m : Members Json)

def invalidSettings {α : Type} (message : String) : Except Raised α :=
  failure .invalidPayload message

/-- Reads a text of settings. Two faults are none of the payload's: an integer that is too long and
brackets that are too deep. -/
def readSettingsText (s : String) : Except Raised Json :=
  match Json.read s with
  | .ok j => .ok j
  | .error e =>
    match e.fault with
    | .longInteger _ => fault .value e.fault.text
    | .deepArray | .deepObject => fault .recursion e.fault.text
    | _ => invalidSettings ("could not unmarshal settings json: " ++ e.message s)

def SettingsPayload.json : SettingsPayload → Except Raised Json
  | .absent => .ok (.object [])
  | .bytes bs =>
    if bs.isEmpty then .ok (.object [])
    else
      match decodeJsonBytes bs with
      | .ok s => readSettingsText s
      | .error e => fault .unicode e.message
  | .text s => if s.isEmpty then .ok (.object []) else readSettingsText s
  | .members m => .ok (.object m)

/-- The config of a payload; the credential is the token among the secrets, whatever the payload says. -/
def loadSettings (payload : SettingsPayload) (secrets : Members Json) :
    Except Raised ConnectionConfig := do
  match ← payload.json with
  | .object m =>
    let token := (secrets.find? "token").getD (.string "")
    match ConnectionConfig.read (.object (Members.put m "credential" token)) with
    | .ok config => .ok config
    | .wrong i _ => invalidSettings ("invalid settings: " ++ i.kind.text)
  | _ => invalidSettings "could not unmarshal settings json: expected an object"

/-- The URL of the engine. -/
def ConnectionConfig.engineUrl (c : ConnectionConfig) : String :=
  match c.url.filter (!·.isEmpty) with
  | some url => url
  | none =>
    "databricks://token:" ++ percentQuoted c.credential ++ "@" ++ c.host ++ "?http_path="
      ++ formQuoted c.httpPath
      ++ (if c.catalog.isEmpty then "" else "&catalog=" ++ formQuoted c.catalog)

/-- The name of a connection in messages. -/
def ConnectionConfig.name (c : ConnectionConfig) : String :=
  (if c.host.isEmpty then c.url.getD "None" else c.host) ++ " (catalog=" ++ c.catalog ++ ")"

def booleanLiteral (b : Bool) : String :=
  if b then "True" else "False"

/-- The description of a config, the credential hidden. -/
def ConnectionConfig.description (c : ConnectionConfig) : String :=
  let hidden := if c.credential.isEmpty then "''" else "'**********'"
  let fields := [
    ("host", literalText c.host), ("http_path", literalText c.httpPath),
    ("catalog", literalText c.catalog), ("credential", "SecretStr(" ++ hidden ++ ")"),
    ("row_cap", digitsText c.rowCap), ("statement_timeout", c.statementTimeout.text),
    ("retry_count", digitsText c.retryCount), ("retry_pause", c.retryPause.text),
    ("retry_timeout", c.retryTimeout.text),
    ("sqlalchemy_url", (c.url.map literalText).getD "None"), ("debug", booleanLiteral c.debug)]
  "ConnectionConfig(" ++ ", ".intercalate (fields.map fun (n, v) => n ++ "=" ++ v) ++ ")"

def Amount.toJson : Amount → Json
  | .whole n => .int n
  | .real x => .float x

/-- The settings under their long names. The credential is left out. -/
def ConnectionConfig.toJson (c : ConnectionConfig) : Json :=
  .object [("host", .string c.host), ("http_path", .string c.httpPath),
    ("catalog", .string c.catalog), ("row_cap", .int c.rowCap),
    ("statement_timeout", c.statementTimeout.toJson), ("retry_count", .int c.retryCount),
    ("retry_pause", c.retryPause.toJson), ("retry_timeout", c.retryTimeout.toJson),
    ("sqlalchemy_url", (c.url.map .string).getD .null), ("debug", .bool c.debug)]

end QueryGate
