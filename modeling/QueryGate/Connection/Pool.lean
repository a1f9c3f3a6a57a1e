import QueryGate.Connection.Circuit
import QueryGate.Connection.Config
import QueryGate.Connection.Deadline
import QueryGate.Connection.Engine
import QueryGate.Connection.Handle
/-! A pooled connection to the engine. A statement is opened by a worker, so that the caller's deadline
bounds it; a cursor that opens too late is closed again. Connections are tried several times, and all
statements go through a circuit breaker. -/

namespace QueryGate

/-- What the pool takes from a config. -/
structure PoolPlan (T : Type) where
  name : String
  attempts : Nat
  pause : T
  /-- The time for all attempts together, if it is bounded. -/
  budget : Option (String × T)
  batchSize : Nat

def fetchBatchSize : Nat := 1000

def PoolPlan.ofConfig (c : ConnectionConfig) : PoolPlan Float where
  name := c.name
  attempts := max 1 c.retryCount
  pause := c.retryPause.toFloat
  budget :=
    if 0.0 < c.retryTimeout.toFloat then some (c.retryTimeout.text, c.retryTimeout.toFloat)
    else none
  batchSize := fetchBatchSize

/-- An open statement: its connection, its result, and whether it was closed. -/
structure OpenCursor (T : Type) where
  connection : Nat
  result : Nat
  deadline : Deadline T
  closed : Bool

inductive JobStage
  | queued
  | running
  | cancelled
  | failed (r : Raised)
  | opened (cursor : Nat)
deriving DecidableEq

/-- A statement to open. An abandoned job has no caller any more. -/
structure Job (T : Type) where
  sql : String
  deadline : Deadline T
  stage : JobStage
  abandoned : Bool

structure Pool (ω T : Type) where
  engine : ω
  circuit : Circuit T
  jobs : List (Job T)
  cursors : List (OpenCursor T)
  shutDown : Bool

/-- Whether an error is one of the database, after which a connection is tried again. -/
def Raised.isDatabaseFault : Raised → Bool
  | .fault f => f.kind.lineage.contains .database
  | .failure _ => false

def poolLogger : String := "connection"

namespace Pool

variable {ω T : Type}

def start (engine : ω) (circuit : Circuit T) : Pool ω T :=
  ⟨engine, circuit, [], [], false⟩

/-- A step of the engine. -/
def engineStep {α : Type} (f : ω → α × ω) : Act (Pool ω T) α :=
  Act.step fun p => let (a, engine) := f p.engine; (a, { p with engine })

/-- A step of the engine that may raise. -/
def engineCall {α : Type} (f : ω → Except Raised α × ω) : Act (Pool ω T) α := do
  Act.given (← engineStep f)

def engineMove (f : ω → ω) : Act (Pool ω T) Unit :=
  Act.change fun p => { p with engine := f p.engine }

def setStage (job : Nat) (stage : JobStage) : Act (Pool ω T) Unit :=
  Act.change fun p => { p with jobs := p.jobs.modify job fun j => { j with stage } }

def stageOf? (job : Nat) : Act (Pool ω T) (Option JobStage) := do
  return ((← Act.outside).jobs[job]?).map (·.stage)

variable (e : Engine ω T)

/-- Closes a cursor unless it was closed before: its result, and its connection in any case. -/
def closeCursor (cursor : Nat) : Act (Pool ω T) Unit := do
  match (← Act.outside).cursors[cursor]? with
  | none => return ()
  | some c =>
    if c.closed then return ()
    else
      Act.change fun p =>
        { p with cursors := p.cursors.modify cursor fun c => { c with closed := true } }
      Act.andFinally (engineCall (e.closeResult c.result))
        (engineCall (e.closeConnection c.connection))

def lateMessage : String := "Closing cursor that opened after its deadline"

/-- Closes the cursor of a job that nobody waits for. An error on the way goes to nobody. -/
def releaseLate (job : Nat) : Act (Pool ω T) Unit := do
  match ← stageOf? job with
  | some (.opened cursor) =>
    Act.log .warning poolLogger lateMessage
    discard (Act.caught (closeCursor e cursor))
  | _ => return ()

variable [Add T] [Sub T] [OfNat T 0] [LT T] [LE T] [DecidableLT T] [DecidableLE T]

def now : Act (Pool ω T) T := do
  return e.now (← Act.outside).engine

def deadlineAfter (label : String) (timeout : T) : Act (Pool ω T) (Deadline T) := do
  return Deadline.after label timeout (← now e)

/-- Whether a deadline leaves no time after a pause. -/
def noTimeAfter (pause : T) (deadline : Deadline T) : Act (Pool ω T) Bool := do
  return deadline.remaining (← now e) ≤ pause

def connectFailure (plan : PoolPlan T) (last : Raised) : Raised :=
  let cause := match last with
    | .fault f => some f.kind
    | .failure _ => none
  .failure ⟨.remote, "Failed to connect to " ++ plan.name ++ ": " ++ last.message, cause⟩

/-- One attempt to connect. A fault of the database is logged and given back, any other is raised. -/
def tryConnect (plan : PoolPlan T) (attempt : Nat) : Act (Pool ω T) (Except Raised Nat) := do
  match ← engineStep e.connect with
  | .ok connection => return .ok connection
  | .error r =>
    if r.isDatabaseFault then
      Act.log .warning poolLogger
        s!"Connection attempt {attempt}/{plan.attempts} failed: {r.message}"
      return .error r
    else Act.raise r

/-- Whether no further attempt may be made: the pause would outlast the budget or the deadline. -/
def outOfTime (plan : PoolPlan T) (deadline : Deadline T) (budget : Option (Deadline T)) :
    Act (Pool ω T) Bool := do
  match budget with
  | some b =>
    if ← noTimeAfter e plan.pause b then return true else noTimeAfter e plan.pause deadline
  | none => noTimeAfter e plan.pause deadline

def pauseBetween (plan : PoolPlan T) : Act (Pool ω T) Unit :=
  if 0 < plan.pause then engineMove (e.sleep plan.pause) else return ()

/-- Tries to connect, so many attempts being left after this one. -/
def connectFrom (plan : PoolPlan T) (deadline : Deadline T) (budget : Option (Deadline T)) :
    Nat → Act (Pool ω T) Nat
  | 0 => do
    match ← tryConnect e plan plan.attempts with
    | .ok connection => return connection
    | .error r => Act.raise (connectFailure plan r)
  | left + 1 => do
    match ← tryConnect e plan (plan.attempts - (left + 1)) with
    | .ok connection => return connection
    | .error r =>
      if ← outOfTime e plan deadline budget then Act.raise (connectFailure plan r)
      else
        pauseBetween e plan
        connectFrom plan deadline budget left

/-- A connection, within the attempts and the time that the plan allows. -/
def acquire (plan : PoolPlan T) (deadline : Deadline T) : Act (Pool ω T) Nat := do
  let budget ← match plan.budget with
    | some (label, seconds) => pure (some (← deadlineAfter e label seconds))
    | none => pure none
  connectFrom e plan deadline budget (plan.attempts - 1)

/-- Runs a statement on a new connection, which is closed if the statement fails. -/
def openStatement (plan : PoolPlan T) (sql : String) (deadline : Deadline T) :
    Act (Pool ω T) Nat := do
  let connection ← acquire e plan deadline
  match ← engineStep (e.run connection sql) with
  | .ok result =>
    Act.step fun p => (p.cursors.length,
      { p with cursors := p.cursors ++ [⟨connection, result, deadline, false⟩] })
  | .error r =>
    engineCall (e.closeConnection connection)
    Act.raise r

/-- A worker runs a job to its end. -/
def work (plan : PoolPlan T) (job : Nat) : Act (Pool ω T) Unit := do
  match (← Act.outside).jobs[job]? with
  | none => return ()
  | some j =>
    setStage job .running
    engineMove e.begin
    match ← Act.caught (openStatement e plan j.sql j.deadline) with
    | .ok cursor => setStage job (.opened cursor)
    | .error r => setStage job (.failed r)
    if j.abandoned then releaseLate e job

def submit (sql : String) (deadline : Deadline T) : Act (Pool ω T) Nat := do
  if (← Act.outside).shutDown then
    Act.raise (.fault ⟨.runtime, "cannot schedule new futures after shutdown"⟩)
  else
    Act.step fun p => (p.jobs.length,
      { p with jobs := p.jobs ++ [⟨sql, deadline, .queued, false⟩] })

/-- Gives a job up: one that was not started never will be, any other is released at its end. -/
def abandon (job : Nat) : Act (Pool ω T) Unit := do
  match ← stageOf? job with
  | some .queued => setStage job .cancelled
  | _ =>
    Act.change fun p =>
      { p with jobs := p.jobs.modify job fun j => { j with abandoned := true } }
    releaseLate e job

def timedOut {α : Type} (job : Nat) (deadline : Deadline T) : Act (Pool ω T) α := do
  abandon e job
  Act.fail .timeout s!"Statement exceeded {deadline.label}s deadline"

/-- Has a worker open a statement and waits for it until the deadline. -/
def openBounded (plan : PoolPlan T) (sql : String) (deadline : Deadline T) :
    Act (Pool ω T) Nat := do
  let job ← submit sql deadline
  match e.turn (← Act.outside).engine with
  | .atOnce => work e plan job
  | .later started =>
    if started then setStage job .running
    let left := deadline.remaining (← now e)
    engineMove (e.wait left)
  match ← stageOf? job with
  | some (.opened cursor) => return cursor
  | some (.failed (.fault f)) =>
    if f.kind = .timeout then timedOut e job deadline else Act.raise (.fault f)
  | some (.failed r) => Act.raise r
  | _ => timedOut e job deadline

def circuitSlot : CircuitSlot (Pool ω T) T where
  get p := p.circuit
  set c p := { p with circuit := c }
  now p := e.now p.engine

/-- Opens a statement through the circuit breaker. -/
def openGuarded (plan : PoolPlan T) (sql : String) (deadline : Deadline T) :
    Act (Pool ω T) Nat :=
  ((circuitSlot e).call (openBounded e plan sql deadline)).onFault fun f =>
    if f.kind = .openCircuit then
      Act.fail .unavailable "Remote engine unavailable: circuit breaker is open" (some .openCircuit)
    else do
      Act.log .error poolLogger s!"Statement execution failed on {plan.name}: {f.message}"
      Act.fail .remote ("Failed to execute query: " ++ f.message) (some f.kind)

/-- The rows of a result in batches, the deadline being looked at before each. The bound is on the
batches still to come. -/
def batches (size : Nat) (cursor : OpenCursor T) : Nat → Rows (Pool ω T)
  | 0 => .done
  | left + 1 =>
    .fetch
      (fun p =>
        if cursor.deadline.expired (e.now p.engine) then p
        else { p with engine := (e.fetch cursor.result size p.engine).2 })
      fun p =>
        if cursor.deadline.expired (e.now p.engine) then
          .broken (.failure ⟨.timeout,
            s!"Statement exceeded {cursor.deadline.label}s deadline while fetching rows", none⟩)
        else
          match (e.fetch cursor.result size p.engine).1 with
          | .error r => .broken r
          | .ok [] => .done
          | .ok batch => batch.foldr Rows.row (batches size cursor left)

def rowsOf (size cursor : Nat) : Rows (Pool ω T) :=
  .fetch id fun p =>
    match p.cursors[cursor]? with
    | none => .done
    | some c =>
      match e.columns c.result p.engine with
      | none => .done
      | some _ => batches e size c (e.fetchesLeft c.result p.engine + 1)

def columnsOf (cursor : Nat) : Act (Pool ω T) (List String) := do
  let p ← Act.outside
  return ((p.cursors[cursor]?).bind fun c => e.columns c.result p.engine).getD []

def cursorOf (plan : PoolPlan T) (cursor : Nat) : Cursor (Pool ω T) where
  columns := columnsOf e cursor
  rows := rowsOf e plan.batchSize cursor
  close := closeCursor e cursor

/-- Opens a statement that has so many seconds from now. -/
def execute (plan : PoolPlan T) (sql label : String) (timeout : T) :
    Act (Pool ω T) (Cursor (Pool ω T)) := do
  let deadline ← deadlineAfter e label timeout
  return cursorOf e plan (← openGuarded e plan sql deadline)

def pingStatement : String := "SELECT 1"

/-- Runs a statement that any engine answers, and reads its rows. -/
def ping (plan : PoolPlan T) (label : String) (timeout : T) : Act (Pool ω T) Unit := do
  let cursor ← execute e plan pingStatement label timeout
  cursor.use fun cursor =>
    (cursor.rows.fold (fun () _ => pure (.yield ())) ()).onFault fun f => do
      Act.log .error poolLogger s!"Ping fetch failed on {plan.name}: {f.message}"
      Act.fail .remote ("Ping failed while fetching: " ++ f.message) (some f.kind)

/-- Takes no more jobs, cancels those not started, and disposes of the engine. -/
def dispose : Act (Pool ω T) Unit := do
  Act.change fun p =>
    { p with
      shutDown := true
      jobs := p.jobs.map fun j => if j.stage = .queued then { j with stage := .cancelled } else j }
  engineMove e.dispose

/-- The jobs whose callers gave up come to their end, in the order in which they were submitted. -/
def finishLate (plan : PoolPlan T) : Act (Pool ω T) (List JobStage) := do
  let jobs := (← Act.outside).jobs
  let stages ← (List.range jobs.length).filterMapM fun job => do
    match ← stageOf? job with
    | some .running =>
      work e plan job
      stageOf? job
    | some .cancelled => return some .cancelled
    | _ => return none
  Act.change fun p => { p with jobs := [] }
  return stages

end Pool

/-- A handle on a pool. -/
def pooledHandle {ω : Type} (e : Engine ω Float) (plan : PoolPlan Float) :
    Handle (Pool ω Float) where
  execute sql timeout := Pool.execute e plan sql timeout.text timeout.toFloat
  ping timeout := Pool.ping e plan timeout.text timeout.toFloat
  dispose := Pool.dispose e
  circuit p := p.circuit.state.label

/-- The name of a handle. -/
def handleName (config : ConnectionConfig) : String :=
  "SqlAlchemyConnectionHandle(" ++ config.name ++ ")"

end QueryGate
