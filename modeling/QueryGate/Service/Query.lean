import QueryGate.Connection.Config
import QueryGate.Query.Frame
import QueryGate.Query.Request
import QueryGate.Query.Response
import QueryGate.Statement.ReadOnly
import QueryGate.Statement.RowCap
/-! Serving one query: its statement is found, judged, adapted and sent; the result must fit the shape
asked for and becomes a frame. Each step sees only what the one before it completed. -/

namespace QueryGate

/-- What the services take from the configuration. -/
structure ServicePlan where
  catalog : String
  rowCap : Nat
  timeout : Amount
  nullText : String
  denied : List String

def ServicePlan.ofConfig (c : ConnectionConfig) (nullText : String) : ServicePlan :=
  ⟨c.catalog, c.rowCap, c.statementTimeout, nullText, defaultDenied⟩

def queryLogger : String := "query_service"

def validatorLogger : String := "validator"

/-- Whether a request carries a statement that is not blank. -/
def Request.hasStatement (r : Request) : Bool :=
  r.statement.any (!isBlankText ·)

/-- The statement of a request: its own, or the one that its definition gives. -/
def Request.resolve (r : Request) : Except Failure String :=
  if r.hasStatement then .ok (r.statement.getD "")
  else
    match r.visual with
    | some v => v.text
    | none => invalidPayload "queryText is required"

variable {σ : Type}

def failWith {α : Type} (f : Failure) : Act σ α :=
  Act.raise (.failure f)

def givenOrFail {α : Type} : Except Failure α → Act σ α
  | .ok a => pure a
  | .error f => failWith f

/-- Judges a statement; a denied word is logged. -/
def validateLogged (denied : List String) (sql : String) : Act σ Unit := do
  match validate denied sql with
  | .ok _ => return ()
  | .error r =>
    match r with
    | .deniedWord word =>
      Act.log .warning validatorLogger ("Rejected statement containing keyword " ++ word)
    | _ => pure ()
    failWith r.failure

/-- The statement that may be sent for a request. -/
def prepare (plan : ServicePlan) (r : Request) : Act σ String := do
  let statement ← givenOrFail r.resolve
  validateLogged plan.denied statement
  let text := adaptStatement statement plan.catalog plan.rowCap
  Act.log .info queryLogger ("Adapted statement [" ++ r.refId ++ "]: " ++ text)
  return text

/-- Reads a result whole, its columns once. -/
def readResult (plan : ServicePlan) (shape : OutputShape) (cursor : Cursor σ) : Act σ Frame := do
  let columns ← cursor.readColumns
  givenOrFail (requireTimeColumn shape columns)
  materialize cursor plan.nullText defaultFrameName (some columns)

def executeQuery (plan : ServicePlan) (handle : Handle σ) (r : Request) : Act σ Frame := do
  let text ← prepare plan r
  let cursor ← handle.execute text plan.timeout
  let frame ← cursor.use (readResult plan r.shape)
  Act.log .info queryLogger s!"Query {r.refId} returned {frame.rowCount} rows"
  return frame

end QueryGate
