import QueryGate.Session
import QueryGate.Value.Cell
/-! The rows of a result as they come in. Between rows more may have to be fetched, which changes what
is outside; the end is reached after finitely many steps. -/

namespace QueryGate

inductive Rows (σ : Type)
  | done
  /-- Reading stops with an error. -/
  | broken (r : Raised)
  | row (cells : List Cell) (rest : Rows σ)
  /-- The outside moves, and what comes next depends on how it was. -/
  | fetch (move : σ → σ) (next : σ → Rows σ)

/-- Goes through the rows with a value, until the end or until the step is done. -/
def Rows.fold {σ β : Type} (step : β → List Cell → Act σ (ForInStep β)) :
    Rows σ → β → Act σ β
  | .done, b => pure b
  | .broken r, _ => Act.raise r
  | .row cells rest, b => do
    match ← step b cells with
    | .done b => pure b
    | .yield b => rest.fold step b
  | .fetch move next, b => do
    let before ← Act.outside
    Act.change move
    (next before).fold step b

/-- Rows that are there already, with an error after them if there is one. -/
def Rows.ofList {σ : Type} (last : Option Raised) : List (List Cell) → Rows σ
  | [] =>
    match last with
    | some r => .broken r
    | none => .done
  | cells :: rest => .row cells (Rows.ofList last rest)

end QueryGate
