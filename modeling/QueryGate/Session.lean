import QueryGate.Failure
/-! Calls with effects. A session holds what is outside, the lines logged so far and the id of the
request that is being served; a call changes the session and may raise. -/

namespace QueryGate

/-- The levels at which the services log. -/
inductive LogLevel
  | info
  | warning
  | error
deriving DecidableEq, Repr

def LogLevel.label : LogLevel → String
  | .info => "INFO"
  | .warning => "WARNING"
  | .error => "ERROR"

structure LogEntry where
  level : LogLevel
  logger : String
  message : String
  /-- The id of the request during which the line was written. -/
  trace : Option String
deriving DecidableEq

structure Session (σ : Type) where
  outside : σ
  log : List LogEntry
  trace : Option String

def Session.start {σ : Type} (outside : σ) : Session σ :=
  ⟨outside, [], none⟩

/-- A call. What it did before raising stays done. -/
abbrev Act (σ : Type) := ExceptT Raised (StateM (Session σ))

namespace Act

variable {σ α : Type}

/-- Runs a call from a session. -/
def outcome (act : Act σ α) (s : Session σ) : Except Raised α × Session σ :=
  (act.run).run s

def log (level : LogLevel) (logger message : String) : Act σ Unit :=
  modify fun s => { s with log := s.log ++ [⟨level, logger, message, s.trace⟩] }

/-- Changes what is outside. -/
def change (f : σ → σ) : Act σ Unit :=
  modify fun s => { s with outside := f s.outside }

/-- Changes what is outside and gives a value. -/
def step (f : σ → α × σ) : Act σ α :=
  modifyGet fun s => let (a, outside) := f s.outside; (a, { s with outside })

def outside : Act σ σ := do
  return (← get).outside

def raise (r : Raised) : Act σ α :=
  throw r

def fail (kind : FailureKind) (message : String) (cause : Option FaultKind := none) : Act σ α :=
  throw (.failure ⟨kind, message, cause⟩)

/-- A value that is there, or an error to raise. -/
def given (value : Except Raised α) : Act σ α :=
  match value with
  | .ok a => pure a
  | .error r => throw r

/-- Runs a call and gives its error as a value. -/
def caught (act : Act σ α) : Act σ (Except Raised α) :=
  tryCatch (do return .ok (← act)) (fun r => return .error r)

/-- Runs `last` whatever becomes of `act`. An error of `last` takes the place of one of `act`. -/
def andFinally (act : Act σ α) (last : Act σ Unit) : Act σ α := do
  let result ← caught act
  last
  given result

/-- Passes failures on and turns any fault into what the handler makes of it. -/
def onFault (act : Act σ α) (handler : Fault → Act σ α) : Act σ α := do
  match ← caught act with
  | .ok a => pure a
  | .error (.failure f) => throw (.failure f)
  | .error (.fault f) => handler f

/-- Serves a call under a request id. -/
def traced (id : String) (act : Act σ α) : Act σ α := do
  let before := (← get).trace
  modify fun s => { s with trace := some id }
  andFinally act (modify fun s => { s with trace := before })

end Act

end QueryGate
