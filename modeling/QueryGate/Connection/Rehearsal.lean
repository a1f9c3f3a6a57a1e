import QueryGate.Connection.Handle
/-! A handle whose answers are settled beforehand, with a record of what was asked of it. -/

namespace QueryGate

/-- What a result gives: its columns and rows, and an error after the rows if there is one. -/
structure ResultScript where
  columns : Except Raised (List String)
  rows : List (List Cell)
  last : Option Raised

def ResultScript.empty : ResultScript :=
  ⟨.ok [], [], none⟩

/-- How often a cursor was closed and its columns were read. -/
structure CursorUse where
  closed : Nat
  reads : Nat
deriving DecidableEq

/-- What was asked so far: the statements with their timeouts and the use of the cursors. -/
structure Record where
  executed : List (String × Amount)
  cursors : List CursorUse
  disposed : Bool

def Record.empty : Record :=
  ⟨[], [], false⟩

/-- The answers: the nth request for a statement opens a result or raises. -/
structure Rehearsal where
  answer : Nat → String → Except Raised ResultScript
  ping : Nat → Except Raised Unit

def Record.request (r : Record) (what : String) (timeout : Amount) : Record :=
  { r with executed := r.executed ++ [(what, timeout)] }

def Record.useCursor (i : Nat) (f : CursorUse → CursorUse) (r : Record) : Record :=
  { r with cursors := r.cursors.modify i f }

def rehearsedCursor (i : Nat) (script : ResultScript) : Cursor Record where
  columns := do
    Act.change (Record.useCursor i fun u => { u with reads := u.reads + 1 })
    Act.given script.columns
  rows := Rows.ofList script.last script.rows
  close := Act.change (Record.useCursor i fun u => { u with closed := u.closed + 1 })

/-- Opens the next cursor. -/
def openRehearsed (script : ResultScript) : Act Record (Cursor Record) :=
  Act.step fun r =>
    (rehearsedCursor r.cursors.length script, { r with cursors := r.cursors ++ [⟨0, 0⟩] })

def Rehearsal.handle (rehearsal : Rehearsal) : Handle Record where
  execute sql timeout := do
    let count := (← Act.outside).executed.length
    Act.change (·.request sql timeout)
    openRehearsed (← Act.given (rehearsal.answer count sql))
  ping timeout := do
    let count := (← Act.outside).executed.length
    Act.change (·.request "<ping>" timeout)
    Act.given (rehearsal.ping count)
  dispose := Act.change fun r => { r with disposed := true }
  circuit _ := "closed"

end QueryGate
