import QueryGate.Connection.Engine
/-! An engine whose behaviour is settled beforehand and whose clock moves only when it is told to, with
counts of what was done to it. -/

namespace QueryGate

/-- An attempt to connect: how long it takes and how it fails, if it does. -/
structure ConnectScript (T : Type) where
  delay : T
  error : Option Raised

/-- A statement: how long it takes, and either its error or its result with what fetching does. -/
structure StatementScript (T : Type) where
  delay : T
  error : Option Raised
  columns : List String
  rows : List (List Cell)
  returnsRows : Bool
  fetchDelay : T
  /-- An error once so many rows have been fetched. -/
  fetchError : Option (Nat × Raised)
  closeError : Option Raised

structure EngineScript (T : Type) where
  /-- The attempts of one job in turn, the last one for all that follow. -/
  connects : List (ConnectScript T)
  statement : StatementScript T
  turn : Turn

/-- An open result and the number of rows fetched from it. -/
structure ScriptedResult (T : Type) where
  script : StatementScript T
  position : Nat

structure ScriptedEngine (T : Type) where
  clock : T
  script : EngineScript T
  connectsOfJob : Nat
  connectCalls : Nat
  opened : Nat
  closed : Nat
  resultsClosed : Nat
  fetches : Nat
  results : List (ScriptedResult T)
  slept : List T
  sent : List String
  disposed : Bool

namespace ScriptedEngine

variable {T : Type} [Add T]

def start (clock : T) (script : EngineScript T) : ScriptedEngine T :=
  ⟨clock, script, 0, 0, 0, 0, 0, 0, [], [], [], false⟩

def advance (time : T) (s : ScriptedEngine T) : ScriptedEngine T :=
  { s with clock := s.clock + time }

def connect (s : ScriptedEngine T) : Except Raised Nat × ScriptedEngine T :=
  let spec := (s.script.connects[s.connectsOfJob]?).orElse fun () => s.script.connects.getLast?
  let s := { s with connectsOfJob := s.connectsOfJob + 1, connectCalls := s.connectCalls + 1 }
  let s := match spec with
    | some c => s.advance c.delay
    | none => s
  match spec.bind (·.error) with
  | some r => (.error r, s)
  | none => (.ok s.opened, { s with opened := s.opened + 1 })

def run (sql : String) (s : ScriptedEngine T) : Except Raised Nat × ScriptedEngine T :=
  let script := s.script.statement
  let s := { s.advance script.delay with sent := s.sent ++ [sql] }
  match script.error with
  | some r => (.error r, s)
  | none => (.ok s.results.length, { s with results := s.results ++ [⟨script, 0⟩] })

def columns (result : Nat) (s : ScriptedEngine T) : Option (List String) :=
  (s.results[result]?).bind fun r => if r.script.returnsRows then some r.script.columns else none

def fetch (result count : Nat) (s : ScriptedEngine T) :
    Except Raised (List (List Cell)) × ScriptedEngine T :=
  match s.results[result]? with
  | none => (.ok [], s)
  | some r =>
    let s := { s.advance r.script.fetchDelay with fetches := s.fetches + 1 }
    match r.script.fetchError.filter fun (at', _) => at' ≤ r.position with
    | some (_, error) => (.error error, s)
    | none =>
      let batch := (r.script.rows.drop r.position).take count
      let results :=
        s.results.modify result fun r => { r with position := r.position + batch.length }
      (.ok batch, { s with results })

def fetchesLeft (result : Nat) (s : ScriptedEngine T) : Nat :=
  match s.results[result]? with
  | some r => r.script.rows.length - r.position
  | none => 0

def closeResult (result : Nat) (s : ScriptedEngine T) : Except Raised Unit × ScriptedEngine T :=
  let s := { s with resultsClosed := s.resultsClosed + 1 }
  match (s.results[result]?).bind (·.script.closeError) with
  | some r => (.error r, s)
  | none => (.ok (), s)

/-- The scripted behaviour as an engine. -/
def engine : Engine (ScriptedEngine T) T where
  now s := s.clock
  sleep time s := { s.advance time with slept := s.slept ++ [time] }
  wait time s := s.advance time
  turn s := s.script.turn
  begin s := { s with connectsOfJob := 0 }
  connect := connect
  run _ sql s := s.run sql
  columns := columns
  fetch := fetch
  fetchesLeft := fetchesLeft
  closeResult := closeResult
  closeConnection _ s := (.ok (), { s with closed := s.closed + 1 })
  dispose s := { s with disposed := true }

end ScriptedEngine

end QueryGate
