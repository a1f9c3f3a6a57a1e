import QueryGate.Json.Value
import QueryGate.Log.Template
import QueryGate.Log.Timestamp
import QueryGate.Value.Display
/-! One log line before it is written. Callers may add attributes of their own; an attribute with the
name of a known one takes its place. -/

namespace QueryGate

structure LogRecord where
  template : Cell
  arguments : Cell := .tuple []
  severity : Cell
  logger : Cell
  /-- Seconds since the start of 1970. -/
  created : Float
  /-- Thousandths of the second, shown after it. -/
  millis : Int
  trace : Cell := .null
  fault : Option Raised := none
  further : Members Cell := []

/-- The thousandths of a time, cut off. -/
def millisOf (created : Float) : Int :=
  floatTrunc ((created - Float.ofInt (floatTrunc created)) * 1000.0)

/-- Whether a value is neither null nor false nor zero nor empty. -/
def Cell.truthy : Cell → Bool
  | .null => false
  | .text s => !s.isEmpty
  | .bytes _ bs => !bs.isEmpty
  | .list items | .tuple items => !items.isEmpty
  | .map entries => !entries.isEmpty
  | .span s => s.totalMicros ≠ 0
  | cell =>
    match cell.number? with
    | some n => !(n.same (.finite 0 1))
    | none => true

/-- A single map that is not empty gives its values by name. -/
def logArguments (cells : List Cell) : Cell :=
  match cells with
  | [.map entries] => if entries.isEmpty then .tuple cells else .map entries
  | _ => .tuple cells

def LogRecord.message (r : LogRecord) : Except Fault String := do
  let template ← r.template.plainText
  if r.arguments.truthy then fillTemplate template r.arguments else return template

/-- The time of a record, by a date pattern or with its thousandths. -/
def LogRecord.timestamp (r : LogRecord) (pattern : Option String) : String :=
  let instant : Instant := ⟨floatFloor r.created⟩
  match pattern with
  | some p =>
    if p.isEmpty then standard instant else String.ofList (instant.patternChars p.toList)
  | none => standard instant
where
  standard (instant : Instant) : String :=
    let size := Nat.toDigits 10 r.millis.natAbs
    let sign := if r.millis < 0 then ['-'] else []
    String.ofList (instant.chars ++ ',' :: (sign ++ zeros (3 - sign.length - size.length) ++ size))

/-- The kind and text of an error. -/
def Raised.headline (r : Raised) : String :=
  let text := match r with
    | .fault ⟨.key, message⟩ => literalText message
    | r => r.message
  if text.isEmpty then r.label else r.label ++ ": " ++ text

/-- The time in a value, if it is a number. -/
def Cell.seconds? : Cell → Option Float
  | .int n => some (Float.ofInt n)
  | .float x => some x
  | _ => none

/-- Attributes of every record, which no line repeats. -/
def standardAttributes : List String :=
  ["args", "asctime", "created", "exc_info", "exc_text", "filename", "funcName", "levelname",
   "levelno", "lineno", "module", "msecs", "message", "msg", "name", "pathname", "process",
   "processName", "relativeCreated", "stack_info", "thread", "threadName", "taskName",
   "request_id"]

/-- Sets an attribute. -/
def LogRecord.set (r : LogRecord) (name : String) (value : Cell) : LogRecord :=
  match name with
  | "msg" => { r with template := value }
  | "args" => { r with arguments := value }
  | "levelname" => { r with severity := value }
  | "name" => { r with logger := value }
  | "request_id" => { r with trace := value }
  | "created" => { r with created := value.seconds?.getD r.created }
  | "msecs" => { r with millis := (value.seconds?.map floatTrunc).getD r.millis }
  | "exc_info" => { r with fault := if value.truthy then r.fault else none }
  | _ => { r with further := r.further.put name value }

def isStandardAttribute (name : String) : Bool :=
  standardAttributes.contains name

/-- Whether an attribute is written to a line: not a standard one, and not one meant to be hidden. -/
def isShownAttribute (name : String) : Bool :=
  !isStandardAttribute name && !"_".toList.isPrefixOf name.toList

/-- The members of a line in JSON. An attribute of the caller replaces a member of its name. -/
def LogRecord.members (r : LogRecord) (pattern : Option String) : Except Fault (Members Cell) := do
  let first : Members Cell :=
    [("timestamp", .text (r.timestamp pattern)), ("level", r.severity), ("name", r.logger),
      ("message", .text (← r.message))]
  let traced := if r.trace.truthy then first ++ [("request_id", r.trace)] else first
  let faulted := match r.fault with
    | some f => traced ++ [("exc_info", .text f.headline)]
    | none => traced
  return (r.further.filter (isShownAttribute ·.1)).foldl (fun m (name, value) => m.put name value)
    faulted

/-- The record as one line of JSON. -/
def LogRecord.jsonLine (r : LogRecord) (pattern : Option String) : Except Fault String := do
  let members ← r.members pattern
  return (← (Cell.map (members.map fun (name, value) => (.text name, value))).toJson).spaced

/-- The record as a line of text. -/
def LogRecord.textLine (r : LogRecord) : Except Fault String := do
  let message ← r.message
  return r.timestamp none ++ " - [" ++ (← r.trace.plainText) ++ "] - " ++ (← r.logger.plainText)
    ++ " - " ++ (← r.severity.plainText) ++ " - " ++ message

end QueryGate
