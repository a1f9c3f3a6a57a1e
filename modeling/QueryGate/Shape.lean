import QueryGate.Failure
import QueryGate.Text.CaseMap
import QueryGate.Text.Literal
/-! The two shapes of a result. A time series needs a column that carries the time. -/

namespace QueryGate

inductive OutputShape
  | table
  | timeSeries
deriving DecidableEq, Repr

def OutputShape.label : OutputShape → String
  | .table => "table"
  | .timeSeries => "timeseries"

/-- Reads a shape with case, outer blanks, underscores and hyphens left out. -/
def OutputShape.ofText? (text : String) : Option OutputShape :=
  let plain := (lowerChars (trimBlanks text.toList)).filter (fun c => c ≠ '_' && c ≠ '-')
  [OutputShape.table, .timeSeries].find? (·.label.toList = plain)

def containsPart (part : List Char) : List Char → Bool
  | [] => part.isEmpty
  | c :: cs => part.isPrefixOf (c :: cs) || containsPart part cs

/-- A column is a time axis when it is called time or its name has timestamp in it. -/
def isTimeColumn (name : String) : Bool :=
  let lowered := lowerChars name.toList
  lowered = "time".toList || containsPart "timestamp".toList lowered

def missingTimeColumnMessage (columns : List String) : String :=
  let joined := ", ".intercalate columns
  "Timeseries format requires a 'time' or '*timestamp*' column, got: "
    ++ if joined.isEmpty then "(none)" else joined

def requireTimeColumn (shape : OutputShape) (columns : List String) : Except Failure Unit :=
  if shape = .timeSeries ∧ ¬ columns.any isTimeColumn then
    .error ⟨.missingTimeColumn, missingTimeColumnMessage columns, none⟩
  else .ok ()

end QueryGate
