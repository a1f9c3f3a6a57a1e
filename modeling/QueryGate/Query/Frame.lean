import QueryGate.Connection.Handle
import QueryGate.Value.Display
/-! Frames: results turned from rows of values into columns of display text. A frame is made whole or
not at all. -/

namespace QueryGate

structure FrameColumn where
  name : String
  values : List String
deriving DecidableEq

structure Frame where
  name : String
  columns : List FrameColumn
deriving DecidableEq

/-- The length of the first column. -/
def Frame.rowCount (frame : Frame) : Nat :=
  match frame.columns with
  | [] => 0
  | column :: _ => column.values.length

/-- The values of the first column of a name. -/
def Frame.values? (frame : Frame) (name : String) : Option (List String) :=
  (frame.columns.find? (·.name = name)).map (·.values)

def displayRow (nullText : String) (cells : List Cell) : Except Fault (List String) :=
  cells.mapM (·.display nullText)

/-- Rows of equal width as columns. -/
def columnValues (width : Nat) (rows : List (List String)) : List (List String) :=
  rows.foldr (List.zipWith (· :: ·)) (List.replicate width [])

def Frame.ofRows (name : String) (names : List String) (rows : List (List String)) : Frame :=
  ⟨name, List.zipWith FrameColumn.mk names (columnValues names.length rows)⟩

/-- Reads one row of display text. -/
def scanRow (nullText : String) (width index : Nat) (cells : List Cell) :
    Except Raised (List String) :=
  if cells.length ≠ width then
    failure .scan s!"Row {index} has {cells.length} values, expected {width}"
  else
    match displayRow nullText cells with
    | .ok texts => .ok texts
    | .error f => .error (.fault f)

/-- What has been scanned, the rows in reverse. -/
structure Scanned where
  count : Nat
  rows : List (List String)

/-- Scans all rows. A fault is a failure to scan the row at which it came. -/
def scanRows {σ : Type} (nullText : String) (width : Nat) : Rows σ → Scanned → Act σ Scanned
  | .done, done => pure done
  | .broken r, done => scanFault done.count r
  | .row cells rest, done =>
    match scanRow nullText width done.count cells with
    | .ok texts => scanRows nullText width rest ⟨done.count + 1, texts :: done.rows⟩
    | .error r => scanFault done.count r
  | .fetch move next, done => do
    let before ← Act.outside
    Act.change move
    scanRows nullText width (next before) done
where
  scanFault (index : Nat) : Raised → Act σ Scanned
    | .failure f => Act.raise (.failure f)
    | .fault f => Act.fail .scan s!"Failed to scan row {index}: {f.message}"

/-- The frame of a cursor. Columns that were read before are not read again. -/
def materialize {σ : Type} (cursor : Cursor σ) (nullText name : String)
    (columns : Option (List String)) : Act σ Frame := do
  let names ← match columns with
    | some names => pure names
    | none => cursor.readColumns
  let scanned ← scanRows nullText names.length cursor.rows ⟨0, []⟩
  return Frame.ofRows name names scanned.rows.reverse

end QueryGate
