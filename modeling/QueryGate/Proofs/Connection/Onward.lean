import Mathlib.Algebra.Order.Group.Defs
import Mathlib.Algebra.Group.Int.Defs
import QueryGate.Proofs.Follows
/-! What a pool keeps while it opens a statement. Whatever becomes of it, the circuit stays as it was, no
job is added, and the clock of the engine is not put back. -/

namespace QueryGate

variable {ω T : Type}

/-- An engine whose clock is put back by nothing that a statement needs. -/
structure Engine.Forward [AddCommGroup T] [LinearOrder T] (e : Engine ω T) : Prop where
  sleep : ∀ t w, 0 < t → e.now w ≤ e.now (e.sleep t w)
  wait : ∀ t w, 0 ≤ t → e.now w ≤ e.now (e.wait t w)
  begin : ∀ w, e.now w ≤ e.now (e.begin w)
  connect : ∀ w, e.now w ≤ e.now (e.connect w).2
  run : ∀ connection sql w, e.now w ≤ e.now (e.run connection sql w).2
  closeResult : ∀ result w, e.now w ≤ e.now (e.closeResult result w).2
  closeConnection : ∀ connection w, e.now w ≤ e.now (e.closeConnection connection w).2

/-- A relation along which a pool is moved by all that is done to it while a statement is opened. -/
structure Engine.Steps [AddCommGroup T] [LinearOrder T] (e : Engine ω T) (r : Pool ω T → Pool ω T → Prop) : Prop where
  sleep : ∀ t p, 0 < t → r p { p with engine := e.sleep t p.engine }
  wait : ∀ t p, 0 ≤ t → r p { p with engine := e.wait t p.engine }
  begin : ∀ p, r p { p with engine := e.begin p.engine }
  connect : ∀ p, r p { p with engine := (e.connect p.engine).2 }
  run : ∀ connection sql p, r p { p with engine := (e.run connection sql p.engine).2 }
  closeResult : ∀ result p, r p { p with engine := (e.closeResult result p.engine).2 }
  closeConnection : ∀ connection p, r p { p with engine := (e.closeConnection connection p.engine).2 }
  jobs : ∀ p jobs, jobs.length = p.jobs.length → r p { p with jobs }
  cursors : ∀ p cursors, r p { p with cursors }

theorem Deadline.remaining_nonneg [AddCommGroup T] [LinearOrder T] (d : Deadline T) (now : T) : 0 ≤ d.remaining now := by
  unfold remaining
  split
  · rename_i h
    exact h.le
  · exact le_rfl

namespace Pool

/-- A pool and the same pool later on, with as many jobs as before. -/
structure Onward [Preorder T] (e : Engine ω T) (p q : Pool ω T) : Prop where
  circuit : q.circuit = p.circuit
  shutDown : q.shutDown = p.shutDown
  jobs : q.jobs.length = p.jobs.length
  clock : e.now p.engine ≤ e.now q.engine

variable {e : Engine ω T}

instance [Preorder T] : IsPreorder (Pool ω T) (Onward e) where
  refl _ := ⟨rfl, rfl, rfl, le_rfl⟩
  trans _ _ _ h h' := ⟨h'.circuit.trans h.circuit, h'.shutDown.trans h.shutDown,
    h'.jobs.trans h.jobs, h.clock.trans h'.clock⟩

variable [AddCommGroup T] [LinearOrder T]

theorem steps_onward (he : e.Forward) : e.Steps (Onward e) where
  sleep t p ht := ⟨rfl, rfl, rfl, he.sleep t p.engine ht⟩
  wait t p ht := ⟨rfl, rfl, rfl, he.wait t p.engine ht⟩
  begin p := ⟨rfl, rfl, rfl, he.begin p.engine⟩
  connect p := ⟨rfl, rfl, rfl, he.connect p.engine⟩
  run connection sql p := ⟨rfl, rfl, rfl, he.run connection sql p.engine⟩
  closeResult result p := ⟨rfl, rfl, rfl, he.closeResult result p.engine⟩
  closeConnection connection p := ⟨rfl, rfl, rfl, he.closeConnection connection p.engine⟩
  jobs _ _ h := ⟨rfl, rfl, h, le_rfl⟩
  cursors _ _ := ⟨rfl, rfl, rfl, le_rfl⟩

section Steps

variable {r : Pool ω T → Pool ω T → Prop} [IsPreorder (Pool ω T) r]

omit [AddCommGroup T] [LinearOrder T] in
theorem follows_stageOf (job : Nat) : (stageOf? job : Act (Pool ω T) (Option JobStage)).Follows r :=
  Act.follows_outside.bind fun _ => Act.follows_pure _

omit [AddCommGroup T] [LinearOrder T] [IsPreorder (Pool ω T) r] in
theorem follows_engineStep {α : Type} {f : ω → α × ω} (h : ∀ p : Pool ω T, r p { p with engine := (f p.engine).2 }) :
    (engineStep f : Act (Pool ω T) α).Follows r :=
  Act.follows_step h

omit [AddCommGroup T] [LinearOrder T] in
theorem follows_engineCall {α : Type} {f : ω → Except Raised α × ω}
    (h : ∀ p : Pool ω T, r p { p with engine := (f p.engine).2 }) : (engineCall f : Act (Pool ω T) α).Follows r :=
  (follows_engineStep h).bind fun _ => Act.follows_given _

omit [AddCommGroup T] [LinearOrder T] in
theorem follows_now : (now e).Follows r :=
  Act.follows_outside.bind fun _ => Act.follows_pure _

theorem follows_noTimeAfter (pause : T) (deadline : Deadline T) : (noTimeAfter e pause deadline).Follows r :=
  follows_now.bind fun _ => Act.follows_pure _

theorem follows_outOfTime (plan : PoolPlan T) (deadline : Deadline T) (budget : Option (Deadline T)) :
    (outOfTime e plan deadline budget).Follows r := by
  unfold outOfTime
  cases budget with
  | none => exact follows_noTimeAfter plan.pause deadline
  | some b =>
    refine (follows_noTimeAfter plan.pause b).bind fun out => ?_
    split
    · exact Act.follows_pure true
    · exact follows_noTimeAfter plan.pause deadline

omit [LinearOrder T] in
theorem follows_deadlineAfter (label : String) (timeout : T) : (deadlineAfter e label timeout).Follows r :=
  follows_now.bind fun _ => Act.follows_pure _

variable (he : e.Steps r)

include he

omit [IsPreorder (Pool ω T) r] in
theorem follows_setStage (job : Nat) (stage : JobStage) : (setStage job stage : Act (Pool ω T) Unit).Follows r :=
  Act.follows_change fun p => he.jobs p _ (List.length_modify ..)

theorem follows_closeCursor (cursor : Nat) : (closeCursor e cursor).Follows r := by
  refine Act.follows_outside.bind fun p => ?_
  split
  · exact Act.follows_pure ()
  · split
    · exact Act.follows_pure ()
    · refine Act.Follows.bind (Act.follows_change fun q => he.cursors q _) fun _ => ?_
      exact (follows_engineCall (he.closeResult _)).andFinally (follows_engineCall (he.closeConnection _))

theorem follows_releaseLate (job : Nat) : (releaseLate e job).Follows r := by
  refine (follows_stageOf job).bind fun stage => ?_
  split
  · exact (Act.follows_log _ _ _).bind fun _ => (follows_closeCursor he _).caught.discard
  · exact Act.follows_pure ()

theorem follows_tryConnect (plan : PoolPlan T) (attempt : Nat) : (tryConnect e plan attempt).Follows r := by
  refine (follows_engineStep he.connect).bind fun result => ?_
  cases result with
  | ok connection => exact Act.follows_pure _
  | error r =>
    dsimp only
    split
    · exact (Act.follows_log _ _ _).bind fun _ => Act.follows_pure _
    · exact Act.follows_raise r

theorem follows_pauseBetween (plan : PoolPlan T) : (pauseBetween e plan).Follows r := by
  unfold pauseBetween
  split
  · rename_i hpause
    exact Act.follows_change fun p => he.sleep plan.pause p hpause
  · exact Act.follows_pure ()

theorem follows_connectFrom (plan : PoolPlan T) (deadline : Deadline T) (budget : Option (Deadline T))
    (left : Nat) : (connectFrom e plan deadline budget left).Follows r := by
  induction left with
  | zero =>
    refine (follows_tryConnect he plan _).bind fun result => ?_
    cases result with
    | ok connection => exact Act.follows_pure connection
    | error r => exact Act.follows_raise _
  | succ left ih =>
    refine (follows_tryConnect he plan _).bind fun result => ?_
    cases result with
    | ok connection => exact Act.follows_pure connection
    | error r =>
      refine (follows_outOfTime plan deadline budget).bind fun out => ?_
      split
      · exact Act.follows_raise _
      · exact (follows_pauseBetween he plan).bind fun _ => ih

theorem follows_acquire (plan : PoolPlan T) (deadline : Deadline T) : (acquire e plan deadline).Follows r := by
  unfold acquire
  cases plan.budget with
  | none => exact (Act.follows_pure none).bind fun budget => follows_connectFrom he plan deadline budget _
  | some seconds =>
    refine Act.Follows.bind ?_ fun budget => follows_connectFrom he plan deadline budget _
    exact (follows_deadlineAfter seconds.1 seconds.2).bind fun _ => Act.follows_pure _

theorem follows_openStatement (plan : PoolPlan T) (sql : String) (deadline : Deadline T) :
    (openStatement e plan sql deadline).Follows r := by
  refine (follows_acquire he plan deadline).bind fun connection => ?_
  refine (follows_engineStep (he.run connection sql)).bind fun result => ?_
  cases result with
  | ok result => exact Act.follows_step fun p => he.cursors p _
  | error r => exact (follows_engineCall (he.closeConnection connection)).bind fun _ => Act.follows_raise r

theorem follows_work (plan : PoolPlan T) (job : Nat) : (work e plan job).Follows r := by
  refine Act.follows_outside.bind fun p => ?_
  cases p.jobs[job]? with
  | none => exact Act.follows_pure ()
  | some j =>
    refine (follows_setStage he job .running).bind fun _ => ?_
    refine Act.Follows.bind (Act.follows_change he.begin) fun _ => ?_
    refine (follows_openStatement he plan j.sql j.deadline).caught.bind fun result => ?_
    have hlast : (if j.abandoned then releaseLate e job else pure ()).Follows r := by
      split
      · exact follows_releaseLate he job
      · exact Act.follows_pure ()
    cases result with
    | ok cursor => exact (follows_setStage he job (.opened cursor)).bind fun _ => hlast
    | error r => exact (follows_setStage he job (.failed r)).bind fun _ => hlast

theorem follows_abandon (job : Nat) : (abandon e job).Follows r := by
  refine (follows_stageOf job).bind fun stage => ?_
  split
  · exact follows_setStage he job .cancelled
  · refine Act.Follows.bind (Act.follows_change fun p => ?_) fun _ => follows_releaseLate he job
    exact he.jobs p _ (List.length_modify ..)

theorem follows_timedOut {α : Type} (job : Nat) (deadline : Deadline T) :
    (timedOut e job deadline : Act (Pool ω T) α).Follows r :=
  (follows_abandon he job).bind fun _ => Act.follows_raise _

end Steps

/-- Opening a statement hands one job to the workers. Nothing else is there to be seen of it but time. -/
theorem openBounded_submits (he : e.Forward) (plan : PoolPlan T) (sql : String) (deadline : Deadline T)
    {s : Session (Pool ω T)} (hup : s.outside.shutDown = false) :
    ∃ job, Onward e { s.outside with jobs := s.outside.jobs ++ [job] }
      ((openBounded e plan sql deadline).outcome s).2.outside := by
  have hsubmit : ∃ s', (submit sql deadline).outcome s = (.ok s.outside.jobs.length, s') ∧
      s'.outside = { s.outside with jobs := s.outside.jobs ++ [⟨sql, deadline, .queued, false⟩] } := by
    unfold submit
    rw [Act.outcome_bind, Act.outcome_outside]
    dsimp only
    rw [if_neg (by simp [hup])]
    exact ⟨_, rfl, rfl⟩
  obtain ⟨s', hs', houtside⟩ := hsubmit
  refine ⟨⟨sql, deadline, .queued, false⟩, ?_⟩
  have hsteps := steps_onward he
  unfold openBounded
  rw [Act.outcome_bind, hs', ← houtside]
  refine Act.Follows.bind (r := Onward e) Act.follows_outside (fun p => ?_) s'
  extract_lets answer waiting
  have hanswer : ∀ u, (answer u).Follows (Onward e) := by
    refine fun _ => (follows_stageOf _).bind fun stage => ?_
    split
    · exact Act.follows_pure _
    · split
      · exact follows_timedOut hsteps _ deadline
      · exact Act.follows_raise _
    · exact Act.follows_raise _
    · exact follows_timedOut hsteps _ deadline
  have hwaiting : ∀ u, (waiting u).Follows (Onward e) := fun _ =>
    follows_now.bind fun now =>
      Act.Follows.bind (Act.follows_change fun p => hsteps.wait _ p (deadline.remaining_nonneg now)) hanswer
  cases e.turn p.engine with
  | atOnce => exact (follows_work hsteps plan _).bind hanswer
  | later started =>
    cases started with
    | true => exact (follows_setStage hsteps _ .running).bind hwaiting
    | false => exact hwaiting ()

end Pool

end QueryGate
