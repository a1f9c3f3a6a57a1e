import QueryGate.Proofs.Connection.Ledger
/-! The steps of a worker. Between two of them other calls may come in; done one after the other they are the
whole work on a job. -/

namespace QueryGate

/-- Where the worker of a job stands. -/
inductive WorkerPoint (T : Type)
  | idle
  | taken
  /-- Before an attempt to connect, with the number of those left after it. -/
  | connecting (budget : Option (Deadline T)) (left : Nat)
  | connected (connection : Nat)
  /-- The statement failed on the connection. -/
  | failing (connection : Nat) (r : Raised)
  | opened (cursor : Nat)
  | failed (r : Raised)
  /-- The job is at its end and nobody waits for it. -/
  | releasing
  | finished

/-- Whether the job is taken and not at its end. -/
def WorkerPoint.isBusy {T : Type} : WorkerPoint T → Bool
  | .taken | .connecting .. | .connected _ | .failing .. | .opened _ | .failed _ => true
  | .idle | .releasing | .finished => false

/-- Whether the worker has something left to do. -/
def WorkerPoint.isRunning {T : Type} : WorkerPoint T → Bool
  | .idle | .finished => false
  | _ => true

/-- Whether the worker holds the connection itself. -/
def WorkerPoint.holds {T : Type} (connection : Nat) : WorkerPoint T → Bool
  | .connected c | .failing c _ => c = connection
  | _ => false

/-- Where a worker goes from the end of a job. -/
def WorkerPoint.afterEnd {T : Type} (abandoned : Bool) : WorkerPoint T :=
  if abandoned then .releasing else .finished

namespace Pool

variable {ω T : Type} [OfNat T 0] [LT T] [DecidableLT T]

theorem pauseBetween_spec (e : Engine ω T) (plan : PoolPlan T) (s : Session (RecordedPool ω T)) :
    ∃ s', (pauseBetween e.recorded plan).outcome s = (.ok (), s') ∧ s'.holdings = s.holdings := by
  unfold pauseBetween
  split
  · exact ⟨_, rfl, rfl⟩
  · exact ⟨_, rfl, rfl⟩

variable [Sub T] [LE T] [DecidableLE T]

theorem outOfTime_spec (e : Engine ω T) (plan : PoolPlan T) (deadline : Deadline T)
    (budget : Option (Deadline T)) (s : Session (RecordedPool ω T)) :
    ∃ late, (outOfTime e.recorded plan deadline budget).outcome s = (.ok late, s) := by
  have hno : ∀ deadline, ∃ late, (noTimeAfter e.recorded plan.pause deadline).outcome s = (.ok late, s) :=
    fun _ => ⟨_, rfl⟩
  unfold outOfTime
  cases budget with
  | none => exact hno deadline
  | some b =>
    obtain ⟨late, hlate⟩ := hno b
    simp only [Act.outcome_bind, hlate]
    cases late with
    | true => exact ⟨true, rfl⟩
    | false => exact hno deadline

variable [Add T]

/-- One step of the worker of a job. -/
def advance (e : Engine ω T) (plan : PoolPlan T) (job : Nat) (j : Job T) :
    WorkerPoint T → Act (Pool ω T) (WorkerPoint T)
  | .taken => do
    engineMove e.begin
    match plan.budget with
    | some (label, seconds) =>
      let budget ← deadlineAfter e label seconds
      return .connecting (some budget) (plan.attempts - 1)
    | none => return .connecting none (plan.attempts - 1)
  | .connecting _ 0 => do
    match ← Act.caught (tryConnect e plan plan.attempts) with
    | .ok (.ok connection) => return .connected connection
    | .ok (.error r) => return .failed (connectFailure plan r)
    | .error r => return .failed r
  | .connecting budget (left + 1) => do
    match ← Act.caught (tryConnect e plan (plan.attempts - (left + 1))) with
    | .ok (.ok connection) => return .connected connection
    | .ok (.error r) =>
      if ← outOfTime e plan j.deadline budget then return .failed (connectFailure plan r)
      else
        pauseBetween e plan
        return .connecting budget left
    | .error r => return .failed r
  | .connected connection => do
    match ← engineStep (e.run connection j.sql) with
    | .ok result =>
      let cursor ← Act.step fun p => (p.cursors.length,
        { p with cursors := p.cursors ++ [⟨connection, result, j.deadline, false⟩] })
      return .opened cursor
    | .error r => return .failing connection r
  | .failing connection r => do
    match ← Act.caught (engineCall (e.closeConnection connection)) with
    | .ok () => return .failed r
    | .error r => return .failed r
  | .opened cursor => do
    setStage job (.opened cursor)
    return .afterEnd j.abandoned
  | .failed r => do
    setStage job (.failed r)
    return .afterEnd j.abandoned
  | .releasing => do
    releaseLate e job
    return .finished
  | .idle => return .idle
  | .finished => return .finished

/-- What one step of a worker does to the point where it stands and to the holdings. -/
inductive Advances (job : Nat) (j : Job T) :
    WorkerPoint T → Holdings T → WorkerPoint T → Holdings T → Prop
  | begin (h budget left) : Advances job j .taken h (.connecting budget left) h
  | connect (h budget left connection) :
      Advances job j (.connecting budget left) h (.connected connection)
        { h with ledger := h.ledger.obtain (.ok connection) }
  | retry (h budget left) : Advances job j (.connecting budget (left + 1)) h (.connecting budget left) h
  | giveUp (h budget left r) : Advances job j (.connecting budget left) h (.failed r) h
  | run (h connection result) :
      Advances job j (.connected connection) h (.opened h.cursors.length)
        { h with cursors := h.cursors ++ [⟨connection, result, j.deadline, false⟩] }
  | runFails (h connection r) : Advances job j (.connected connection) h (.failing connection r) h
  | close (h connection r r') :
      Advances job j (.failing connection r) h (.failed r')
        { h with ledger := h.ledger.close connection }
  | finish (h cursor) :
      Advances job j (.opened cursor) h (.afterEnd j.abandoned) (h.setStage job (.opened cursor))
  | fail (h r) : Advances job j (.failed r) h (.afterEnd j.abandoned) (h.setStage job (.failed r))
  | release (h) : Advances job j .releasing h .finished (h.releaseLate job)

/-- A worker's step never raises, and the point where it leads fits what it did. -/
theorem advance_spec (e : Engine ω T) (plan : PoolPlan T) (job : Nat) (j : Job T)
    {p : WorkerPoint T} (hp : p.isRunning = true) (s : Session (RecordedPool ω T)) :
    ∃ p' s', (advance e.recorded plan job j p).outcome s = (.ok p', s') ∧
      Advances job j p s.holdings p' s'.holdings := by
  cases p with
  | idle => simp [WorkerPoint.isRunning] at hp
  | finished => simp [WorkerPoint.isRunning] at hp
  | taken =>
    simp only [advance, Act.outcome_bind, engineMove, Act.outcome_change]
    cases plan.budget with
    | none => exact ⟨_, _, rfl, .begin _ _ _⟩
    | some b => exact ⟨_, _, rfl, .begin _ _ _⟩
  | connecting budget left =>
    cases left with
    | zero =>
      obtain ⟨result, s', hr, h⟩ := tryConnect_spec e plan plan.attempts s
      simp only [advance, Act.outcome_bind, Act.outcome_caught, hr]
      rcases h with ⟨c, rfl, h⟩ | ⟨⟨r, rfl | rfl⟩, h⟩
      · exact ⟨_, _, rfl, h ▸ .connect _ _ _ _⟩
      · exact ⟨_, _, rfl, h ▸ .giveUp _ _ _ _⟩
      · exact ⟨_, _, rfl, h ▸ .giveUp _ _ _ _⟩
    | succ left =>
      obtain ⟨result, s', hr, h⟩ := tryConnect_spec e plan (plan.attempts - (left + 1)) s
      simp only [advance, Act.outcome_bind, Act.outcome_caught, hr]
      rcases h with ⟨c, rfl, h⟩ | ⟨⟨r, rfl | rfl⟩, h⟩
      · exact ⟨_, _, rfl, h ▸ .connect _ _ _ _⟩
      · obtain ⟨late, hlate⟩ := outOfTime_spec e plan j.deadline budget s'
        simp only [Act.outcome_bind, hlate]
        cases late with
        | true => exact ⟨_, _, rfl, h ▸ .giveUp _ _ _ _⟩
        | false =>
          obtain ⟨s'', hpause, hs⟩ := pauseBetween_spec e plan s'
          refine ⟨.connecting budget left, s'', ?_, hs ▸ h ▸ .retry _ _ _⟩
          simp only [Bool.false_eq_true, if_false, Act.outcome_bind, hpause]
          rfl
      · exact ⟨_, _, rfl, h ▸ .giveUp _ _ _ _⟩
  | connected connection =>
    simp only [advance, Act.outcome_bind, engineStep, Act.outcome_step, Engine.recorded]
    cases hr : (e.run connection j.sql s.outside.engine.1).1 with
    | ok result => exact ⟨_, _, rfl, .run _ _ _⟩
    | error r => exact ⟨_, _, rfl, .runFails _ _ _⟩
  | failing connection r =>
    simp only [advance, Act.outcome_bind, Act.outcome_caught, outcome_engineCall]
    rcases (e.recorded.closeConnection connection s.outside.engine).1 with r' | ⟨⟩
    · exact ⟨_, _, rfl, .close _ _ _ _⟩
    · exact ⟨_, _, rfl, .close _ _ _ _⟩
  | opened cursor => exact ⟨_, _, rfl, .finish _ _⟩
  | failed r => exact ⟨_, _, rfl, .fail _ _⟩
  | releasing =>
    obtain ⟨hh, hok⟩ := holdings_releaseLate e job s
    refine ⟨.finished, ((releaseLate e.recorded job).outcome s).2, ?_, hh ▸ .release _⟩
    simp only [advance, Act.outcome_bind]
    rw [show (releaseLate e.recorded job).outcome s = (.ok (), ((releaseLate e.recorded job).outcome s).2)
      from Prod.ext hok rfl]
    rfl

end Pool

end QueryGate
