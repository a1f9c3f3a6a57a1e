import QueryGate.Connection.Rows
import QueryGate.Number.FloatText
/-! What the services need of a connection to the remote engine: statements sent as they are, each
within a number of seconds, and a sign of life. -/

namespace QueryGate

/-- An open result. It has to be closed on every way out. -/
structure Cursor (σ : Type) where
  columns : Act σ (List String)
  rows : Rows σ
  close : Act σ Unit

structure Handle (σ : Type) where
  execute : String → Amount → Act σ (Cursor σ)
  ping : Amount → Act σ Unit
  dispose : Act σ Unit
  /-- The name of the state that the circuit breaker is in. -/
  circuit : σ → String

/-- Uses a cursor and closes it. -/
def Cursor.use {σ α : Type} (cursor : Cursor σ) (body : Cursor σ → Act σ α) : Act σ α :=
  Act.andFinally (body cursor) cursor.close

/-- Reads the column names; any fault is a failure of the remote engine. -/
def Cursor.readColumns {σ : Type} (cursor : Cursor σ) : Act σ (List String) :=
  cursor.columns.onFault fun f =>
    Act.fail .remote ("Failed to read column metadata: " ++ f.message) (some f.kind)

end QueryGate
