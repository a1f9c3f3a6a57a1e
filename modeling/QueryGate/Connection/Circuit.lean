import QueryGate.Session
/-! Circuit breakers. After too many failures in a row calls are refused for a time; then one trial call
decides whether the circuit closes again. -/

namespace QueryGate

inductive CircuitState
  | closed
  | opened
  | halfOpen
deriving DecidableEq, Repr

def CircuitState.label : CircuitState → String
  | .closed => "closed"
  | .opened => "open"
  | .halfOpen => "half-open"

structure Circuit (T : Type) where
  name : String
  failMax : Nat
  resetTimeout : T
  /-- Names of the kinds of errors that do not count as failures. -/
  excluded : List String
  state : CircuitState
  failures : Nat
  openedAt : Option T

def Circuit.start {T : Type} (name : String) (failMax : Nat) (resetTimeout : T)
    (excluded : List String) : Circuit T :=
  ⟨name, failMax, resetTimeout, excluded, .closed, 0, none⟩

/-- Where a circuit and the time are to be found outside. -/
structure CircuitSlot (σ T : Type) where
  get : σ → Circuit T
  set : Circuit T → σ → σ
  now : σ → T

def circuitLogger : String := "resilience"

namespace CircuitSlot

variable {σ T α : Type} [Add T] [LT T] [DecidableLT T] (slot : CircuitSlot σ T)

def circuit : Act σ (Circuit T) := do
  return slot.get (← Act.outside)

def update (f : Circuit T → Circuit T) : Act σ Unit :=
  Act.change fun s => slot.set (f (slot.get s)) s

def logChange (c : Circuit T) (state : CircuitState) : Act σ Unit :=
  Act.log .warning circuitLogger
    s!"Circuit Breaker '{c.name}' changed state: {c.state.label} -> {state.label}"

/-- Opens the circuit and notes the time. The count of failures stays. -/
def trip : Act σ Unit := do
  let now := slot.now (← Act.outside)
  logChange (← slot.circuit) .opened
  slot.update fun c => { c with state := .opened, openedAt := some now }

/-- Closes the circuit and forgets the failures. -/
def close : Act σ Unit := do
  logChange (← slot.circuit) .closed
  slot.update fun c => { c with state := .closed, failures := 0 }

def halfOpen : Act σ Unit := do
  logChange (← slot.circuit) .halfOpen
  slot.update fun c => { c with state := .halfOpen }

/-- A call that went well, or whose error does not count. A trial closes the circuit. -/
def succeed (state : CircuitState) : Act σ Unit := do
  slot.update fun c => { c with failures := 0 }
  if state = .halfOpen then slot.close

/-- Counts and logs a failure. -/
def countFailure (r : Raised) : Act σ (Circuit T) := do
  slot.update fun c => { c with failures := c.failures + 1 }
  let c ← slot.circuit
  Act.log .error circuitLogger
    (s!"Circuit Breaker '{c.name}' recorded failure {c.failures}/{c.failMax}: "
      ++ s!"{r.label}: {r.message}")
  return c

def refuse (message : String) : Act σ α :=
  Act.raise (.fault ⟨.openCircuit, message⟩)

/-- A failed call: the one that opens the circuit raises in place of the call's own error. -/
def failCall (state : CircuitState) (r : Raised) : Act σ α := do
  let c ← slot.countFailure r
  match state with
  | .halfOpen =>
    slot.trip
    refuse "Trial call failed, circuit breaker opened"
  | _ =>
    if c.failMax ≤ c.failures then
      slot.trip
      refuse "Failures threshold reached, circuit breaker opened"
    else Act.raise r

/-- A call in a circuit that lets it through. -/
def attempt (state : CircuitState) (act : Act σ α) : Act σ α := do
  match ← Act.caught act with
  | .ok a =>
    slot.succeed state
    return a
  | .error r =>
    if (slot.get (← Act.outside)).excluded.any r.lineage.contains then
      slot.succeed state
      Act.raise r
    else slot.failCall state r

/-- A call through the circuit. An open circuit refuses it until its time is over, and then lets one
trial through. -/
def call (act : Act σ α) : Act σ α := do
  let c ← slot.circuit
  let now := slot.now (← Act.outside)
  match c.state with
  | .opened =>
    if c.openedAt.any (fun t => now < t + c.resetTimeout) then
      refuse "Timeout not elapsed yet, circuit breaker still open"
    else
      slot.halfOpen
      slot.attempt .halfOpen act
  | state => slot.attempt state act

end CircuitSlot

end QueryGate
