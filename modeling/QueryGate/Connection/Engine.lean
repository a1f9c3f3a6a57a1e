import QueryGate.Failure
import QueryGate.Value.Cell
/-! What a pool of connections needs of the engine's driver, of its worker threads and of the clock. Its
state may be of any type, so an engine may behave in any way. -/

namespace QueryGate

/-- How a worker takes a job up: at once and to its end, or not before its caller gives up. -/
inductive Turn
  | atOnce
  | later (started : Bool)
deriving DecidableEq, Repr

structure Engine (ω T : Type) where
  now : ω → T
  /-- The caller sleeps. -/
  sleep : T → ω → ω
  /-- The caller waits for a worker. -/
  wait : T → ω → ω
  turn : ω → Turn
  /-- A worker begins a job. -/
  begin : ω → ω
  /-- A new connection, by its number. -/
  connect : ω → Except Raised Nat × ω
  /-- Runs a statement on a connection; its result, by its number. -/
  run : Nat → String → ω → Except Raised Nat × ω
  /-- The columns of a result, or nothing for a result without rows. -/
  columns : Nat → ω → Option (List String)
  /-- The next rows of a result, at most so many; none at its end. -/
  fetch : Nat → Nat → ω → Except Raised (List (List Cell)) × ω
  /-- A bound on the fetches of a result that are still to come. -/
  fetchesLeft : Nat → ω → Nat
  closeResult : Nat → ω → Except Raised Unit × ω
  closeConnection : Nat → ω → Except Raised Unit × ω
  dispose : ω → ω

end QueryGate
