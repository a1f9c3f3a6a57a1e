import QueryGate.Log.Setup
/-! What a program logs, and the trace contexts around it. -/

namespace QueryGate

/-- Something that is logged. -/
structure LogEvent where
  logger : String
  severity : Int
  message : Cell
  /-- Attributes that the caller gives the record. -/
  further : Members Cell
  created : Float

/-- The attributes that a record is made with, and two that are made when it is written. -/
def reservedAttributes : List String :=
  standardAttributes.filter (· ∉ ["taskName", "request_id"])

/-- The record of an event. No attribute of the caller may stand for one of the record's own. -/
def LogEvent.record (e : LogEvent) : Except Fault LogRecord :=
  match (e.further.map (·.1)).find? reservedAttributes.contains with
  | some name => .error ⟨.key, "Attempt to overwrite " ++ literalText name ++ " in LogRecord"⟩
  | none => .ok {
      template := e.message, severity := .text (severityName e.severity),
      logger := .text (if isRootLogger e.logger then "root" else e.logger),
      created := e.created, millis := millisOf e.created, further := e.further }

/-- A record with the id of the innermost context that is open. -/
def LogRecord.stamped (r : LogRecord) (trace : Option String) : LogRecord :=
  { r with trace := (trace.map Cell.text).getD .null }

def LogLayout.line (layout : LogLayout) (r : LogRecord) : Except Fault String :=
  match layout with
  | .text => r.textLine
  | .json => r.jsonLine none

/-- Writes a line. One that cannot be made is left out. -/
def LogLayout.write (r : LogRecord) (layout : LogLayout) : Act LogSetup Unit := do
  match layout.line (r.stamped (← get).trace) with
  | .ok line => Act.change fun s => { s with output := s.output ++ [line] }
  | .error _ => pure ()

/-- Nothing is logged at a severity that is not positive. -/
def LogSetup.logs (s : LogSetup) (e : LogEvent) : Bool :=
  0 < e.severity && s.thresholdOf e.logger ≤ e.severity

def LogEvent.log (e : LogEvent) : Act LogSetup Unit := do
  let s ← Act.outside
  if s.logs e then
    let record ← Act.given (e.record.mapError Raised.fault)
    s.handlers.forM (·.write record)

/-- What a program does with the log: it logs events, opens contexts, and goes on after errors in a part of it. -/
inductive LogScript
  | done
  | event (e : LogEvent) (rest : LogScript)
  | context (id : String) (inner rest : LogScript)
  | guarded (inner rest : LogScript)

def LogScript.run : LogScript → Act LogSetup Unit
  | .done => pure ()
  | .event e rest => do
    e.log
    rest.run
  | .context id inner rest => do
    Act.traced id inner.run
    rest.run
  | .guarded inner rest => do
    discard (Act.caught inner.run)
    rest.run

end QueryGate
