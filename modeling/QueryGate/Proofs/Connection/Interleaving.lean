import Mathlib.Logic.Relation
import QueryGate.Proofs.Connection.Worker
/-! The calls of a pool in any order of their steps. Workers, callers and those who dispose of the pool take
turns in whatever order; every step is a call of the pool itself or a part of one. -/

namespace QueryGate

/-- Where the caller that submitted a job stands. -/
inductive CallPoint
  | waiting
  /-- The wait is over, and the job is still to be cancelled. -/
  | timedOut
  /-- The job could not be cancelled, and the callback is still to be left with it. -/
  | uncancelled
  /-- The callback was left with a job at its end and runs at once. -/
  | releasing
  | returned (cursor : Nat)
  /-- The caller is a ping, which reads the rows and then closes the cursor. -/
  | reading (cursor : Nat)
  | over
deriving DecidableEq

/-- A pool with the workers and the callers of its jobs, job by job. -/
structure World (ω T : Type) where
  session : Session (RecordedPool ω T)
  workers : List (WorkerPoint T)
  calls : List CallPoint
  /-- The job in which each cursor was opened. -/
  makers : List Nat
  /-- The cursors that the callback closed. -/
  late : List Nat

namespace World

variable {ω T : Type}

def holdings (w : World ω T) : Holdings T :=
  w.session.holdings

def jobs (w : World ω T) : List (Job T) :=
  w.holdings.jobs

def stage? (w : World ω T) (job : Nat) : Option JobStage :=
  w.jobs[job]?.map Job.stage

/-- A pool before its first call. -/
structure IsStart (w : World ω T) : Prop where
  holdings : w.holdings = ⟨[], [], ⟨[], []⟩⟩
  workers : w.workers = []
  calls : w.calls = []
  makers : w.makers = []
  late : w.late = []

/-- The world after a call of its pool. -/
def after {α : Type} (w : World ω T) (a : Act (RecordedPool ω T) α) : World ω T :=
  { w with session := (a.outcome w.session).2 }

def moveWorker (w : World ω T) (job : Nat) (p : WorkerPoint T) : World ω T :=
  { w with workers := w.workers.set job p }

def moveCall (w : World ω T) (job : Nat) (c : CallPoint) : World ω T :=
  { w with calls := w.calls.set job c }

def noteMaker (w : World ω T) (job : Nat) : WorkerPoint T → World ω T
  | .opened _ => { w with makers := w.makers ++ [job] }
  | _ => w

/-- The callback of a job runs. -/
def release (w : World ω T) (e : Engine ω T) (job : Nat) : World ω T :=
  match w.stage? job with
  | some (.opened cursor) =>
    { w.after (Pool.releaseLate e.recorded job) with late := cursor :: w.late }
  | _ => w.after (Pool.releaseLate e.recorded job)

/-- Leaves the callback with a job. -/
def leaveCallback (job : Nat) : Act (RecordedPool ω T) Unit :=
  Act.change fun p =>
    { p with jobs := p.jobs.modify job fun j => { j with abandoned := true } }

variable [Add T] [Sub T] [OfNat T 0] [LT T] [LE T] [DecidableLT T] [DecidableLE T]

inductive Step (e : Engine ω T) (plan : PoolPlan T) : World ω T → World ω T → Prop
  /-- Time goes by, rows are read, the circuit changes, lines are logged. -/
  | ambient (w : World ω T) (s) : s.holdings = w.holdings → Step e plan w { w with session := s }
  | submit (w : World ω T) (sql deadline job s) :
      (Pool.submit sql deadline).outcome w.session = (.ok job, s) →
      Step e plan w
        { w with session := s, workers := w.workers ++ [.idle], calls := w.calls ++ [.waiting] }
  | start (w : World ω T) (job : Nat) : w.stage? job = some .queued →
      Step e plan w ((w.after (Pool.setStage job .running)).moveWorker job .taken)
  | work (w : World ω T) (job j p p' s) : w.jobs[job]? = some j → w.workers[job]? = some p → p.isBusy = true →
      (Pool.advance e.recorded plan job j p).outcome w.session = (.ok p', s) →
      Step e plan w ((({ w with session := s } : World ω T).moveWorker job p').noteMaker job p')
  | workerReleases (w : World ω T) (job : Nat) : w.workers[job]? = some .releasing →
      Step e plan w ((w.release e job).moveWorker job .finished)
  | take (w : World ω T) (job cursor : Nat) : w.calls[job]? = some .waiting → w.stage? job = some (.opened cursor) →
      Step e plan w (w.moveCall job (.returned cursor))
  | takeForPing (w : World ω T) (job cursor : Nat) : w.calls[job]? = some .waiting →
      w.stage? job = some (.opened cursor) → Step e plan w (w.moveCall job (.reading cursor))
  | raise (w : World ω T) (job : Nat) (r) : w.calls[job]? = some .waiting → w.stage? job = some (.failed r) →
      Step e plan w (w.moveCall job .over)
  | raiseCancelled (w : World ω T) (job : Nat) : w.calls[job]? = some .waiting ∨ w.calls[job]? = some .timedOut →
      w.stage? job = some .cancelled → Step e plan w (w.moveCall job .over)
  /-- The wait ends, or the job failed with the very error by which the end of a wait is told. -/
  | timeOut (w : World ω T) (job : Nat) : w.calls[job]? = some .waiting → Step e plan w (w.moveCall job .timedOut)
  | cancel (w : World ω T) (job : Nat) : w.calls[job]? = some .timedOut → w.stage? job = some .queued →
      Step e plan w ((w.after (Pool.setStage job .cancelled)).moveCall job .over)
  | cancelFails (w : World ω T) (job : Nat) : w.calls[job]? = some .timedOut → w.stage? job ≠ some .queued →
      Step e plan w (w.moveCall job .uncancelled)
  | register (w : World ω T) (job : Nat) : w.calls[job]? = some .uncancelled → w.stage? job = some .running →
      Step e plan w ((w.after (leaveCallback job)).moveCall job .over)
  | registerAtEnd (w : World ω T) (job : Nat) : w.calls[job]? = some .uncancelled → w.stage? job ≠ some .running →
      Step e plan w ((w.after (leaveCallback job)).moveCall job .releasing)
  | callerReleases (w : World ω T) (job : Nat) : w.calls[job]? = some .releasing →
      Step e plan w ((w.release e job).moveCall job .over)
  | close (w : World ω T) (job cursor : Nat) : w.calls[job]? = some (.returned cursor) →
      Step e plan w (w.after (Pool.closeCursor e.recorded cursor))
  | closePing (w : World ω T) (job cursor : Nat) : w.calls[job]? = some (.reading cursor) →
      Step e plan w ((w.after (Pool.closeCursor e.recorded cursor)).moveCall job .over)
  | dispose (w : World ω T) : Step e plan w (w.after (Pool.dispose e.recorded))

abbrev Path (e : Engine ω T) (plan : PoolPlan T) : World ω T → World ω T → Prop :=
  Relation.ReflTransGen (Step e plan)

/-- A world that some order of steps leads to, from a pool before its first call. -/
def IsReached (e : Engine ω T) (plan : PoolPlan T) (w : World ω T) : Prop :=
  ∃ start, start.IsStart ∧ Path e plan start w

end World

end QueryGate
