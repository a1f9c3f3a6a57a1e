import QueryGate.Log.Record
import QueryGate.Session
/-! How grave a log line is, and where it goes. A severity is a number, and some numbers have names. Setting up the
log replaces the handlers of the root. A logger has a severity of its own, or else the one of the nearest logger above it
that has one. -/

namespace QueryGate

/-- The named severities; of two names for one number the first is shown. -/
def namedSeverities : List (String × Int) :=
  [("NOTSET", 0), ("DEBUG", 10), ("INFO", 20), ("WARNING", 30), ("WARN", 30), ("ERROR", 40),
   ("CRITICAL", 50), ("FATAL", 50)]

def severityName (severity : Int) : String :=
  match namedSeverities.find? (·.2 = severity) with
  | some (name, _) => name
  | none => "Level " ++ intText severity

def severityNamed? (name : String) : Option Int :=
  List.lookup name namedSeverities

/-- The severity that a value asks for, by number or by name. -/
def Cell.severity : Cell → Except Fault Int
  | .int n => .ok n
  | .bool b => .ok (if b then 1 else 0)
  | .text name =>
    match severityNamed? name with
    | some n => .ok n
    | none => .error ⟨.value, "Unknown level: " ++ literalText name⟩
  | cell => do .error ⟨.type, "Level not an integer or a valid string: " ++ (← cell.literal)⟩

inductive LogLayout
  | text
  | json
deriving DecidableEq, Repr

structure LogSetup where
  /-- The severity of the root, from which the lines of a logger without one of its own are written. -/
  threshold : Int
  handlers : List LogLayout
  /-- Severities of other loggers, which hold below them too. Zero is no severity. -/
  own : Members Int
  /-- The lines that the handlers have written. -/
  output : List String := []

/-- Before the log is set up there is no handler. -/
def LogSetup.initial : LogSetup :=
  { threshold := 30, handlers := [], own := [] }

/-- Libraries that say too much below a warning. -/
def noisyLoggers : List String := ["databricks.sql", "urllib3"]

def setThreshold (level : Cell) : Act LogSetup Unit := do
  let threshold ← Act.given (level.severity.mapError Raised.fault)
  Act.change ({ · with threshold })

def removeHandler (layout : LogLayout) : Act LogSetup Unit :=
  Act.change fun s => { s with handlers := s.handlers.erase layout }

def addHandler (layout : LogLayout) : Act LogSetup Unit :=
  Act.change fun s => { s with handlers := s.handlers ++ [layout] }

def setOwnSeverity (severity : Int) (logger : String) : Act LogSetup Unit :=
  Act.change fun s => { s with own := s.own.put logger severity }

/-- Sets up the log of the root. -/
def configureLogging (level : Cell) (layout : LogLayout) : Act LogSetup Unit := do
  setThreshold level
  (← Act.outside).handlers.forM removeHandler
  addHandler layout
  noisyLoggers.forM (setOwnSeverity 30)

/-- The root is also found under an empty name. -/
def isRootLogger (name : String) : Bool :=
  name.isEmpty || name = "root"

/-- The names before the dots of a name, all of them read backwards. The character before a dot is passed over when the
next dot is looked for. -/
def namesBefore : List Char → List (List Char)
  | '.' :: c :: rest => (c :: rest) :: namesBefore rest
  | _ :: rest => namesBefore rest
  | [] => []

/-- A logger and those above it, the nearest first. The root has a severity in any case and is left out. -/
def loggerChain (name : String) : List String :=
  if isRootLogger name then []
  else name :: (namesBefore name.toList.reverse).map (String.ofList ·.reverse)

def LogSetup.ownSeverity (s : LogSetup) (logger : String) : Int :=
  (s.own.find? logger).getD 0

/-- The severity from which a logger's lines are written. -/
def LogSetup.thresholdOf (s : LogSetup) (logger : String) : Int :=
  (((loggerChain logger).map s.ownSeverity).find? (· ≠ 0)).getD s.threshold

end QueryGate
