import QueryGate.Console.Markup
import QueryGate.Console.Table
import QueryGate.Query.Frame
/-! What the command line prints: frames and lists of names as tables, and single messages. Cells and
messages are escaped; headers and titles may carry markup. -/

namespace QueryGate

/-- The text that a console shows for an escaped text. -/
def showEscaped (s : String) : Except Fault (List Char) :=
  showMarkup (escapeMarkup s.toList)

/-- A column with a header in markup and cells that are plain. -/
def tableColumn (header : String) (cells : List String) (wraps : Bool) :
    Except Fault TableColumn := do
  return ⟨← showMarkup header.toList, ← cells.mapM showEscaped, wraps⟩

/-- The columns are made first, so that of two faults the one in a column is told. -/
def titledTable (title : String) (columns : Except Fault (List TableColumn)) :
    Except Fault Table := do
  let columns ← columns
  if columns.isEmpty then return ⟨[], []⟩ else return ⟨← showMarkup title.toList, columns⟩

def frameTitle (f : Frame) : String :=
  f.name ++ s!" ({f.rowCount} rows)"

/-- A column in as many rows as there are; a value that is missing is a fault. -/
def FrameColumn.inRows (count : Nat) (c : FrameColumn) : Except Fault FrameColumn :=
  if c.values.length < count then .error ⟨.index, "list index out of range"⟩
  else .ok { c with values := c.values.take count }

def frameReport (f : Frame) : Except Fault String := do
  let columns ← f.columns.mapM (·.inRows f.rowCount)
  let table ← titledTable (frameTitle f)
    (columns.mapM fun c => tableColumn c.name c.values true)
  return printedLines table.lines

def namesReport (title : String) (names : List String) : Except Fault String := do
  let table ← titledTable title ([("Name", names)].mapM fun (header, cells) =>
    tableColumn header cells false)
  return printedLines table.lines

def markedMessage (mark : String) (style message : String) : Except Fault String := do
  let shown ← showMarkup (bracketedChars style.toList ++ (mark ++ " ").toList
    ++ escapeMarkup message.toList ++ bracketedChars ('/' :: style.toList))
  return printedLines (messageLines shown)

def successReport (message : String) : Except Fault String :=
  markedMessage "✔" "success" message

def errorReport (message : String) : Except Fault String :=
  markedMessage "✘" "error" message

end QueryGate
