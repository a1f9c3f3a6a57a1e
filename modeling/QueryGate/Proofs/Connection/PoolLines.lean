import QueryGate.Connection.Pool
import QueryGate.Proofs.Service.Stamping
/-! The lines that a pool logs. The circuit and whoever waits for a statement stamp what they log; the
pool's own lines may come from its workers. -/

namespace QueryGate

variable {σ ω T α : Type} {own : LogEntry → Prop}

theorem Act.Stamps.discard {a : Act σ α} (h : a.Stamps own) :
    (discard a : Act σ PUnit).Stamps own := by
  intro s
  rw [outcome_discard]
  exact h s

/-! The circuit. -/

namespace CircuitSlot

theorem circuit_stamps (slot : CircuitSlot σ T) : slot.circuit.Stamps own :=
  Act.stamps_outside.bind fun _ => Act.stamps_pure _

theorem trip_stamps (slot : CircuitSlot σ T) : slot.trip.Stamps own :=
  Act.stamps_outside.bind fun _ => slot.circuit_stamps.bind fun _ =>
    (Act.stamps_log _ _ _).bind fun _ => Act.stamps_change _

theorem close_stamps (slot : CircuitSlot σ T) : slot.close.Stamps own :=
  slot.circuit_stamps.bind fun _ => (Act.stamps_log _ _ _).bind fun _ => Act.stamps_change _

theorem halfOpen_stamps (slot : CircuitSlot σ T) : slot.halfOpen.Stamps own :=
  slot.circuit_stamps.bind fun _ => (Act.stamps_log _ _ _).bind fun _ => Act.stamps_change _

variable (slot : CircuitSlot σ T)

theorem succeed_stamps (state : CircuitState) : (slot.succeed state).Stamps own := by
  refine (Act.stamps_change _).bind fun _ => ?_
  split
  · exact slot.close_stamps
  · exact Act.stamps_pure ()

theorem failCall_stamps (state : CircuitState) (r : Raised) :
    (slot.failCall state r : Act σ α).Stamps own := by
  have hcount : (slot.countFailure r).Stamps own := (Act.stamps_change _).bind fun _ =>
    slot.circuit_stamps.bind fun _ => (Act.stamps_log _ _ _).bind fun _ => Act.stamps_pure _
  have htrip : ∀ message, (slot.trip >>= fun _ => refuse message : Act σ α).Stamps own :=
    fun message => slot.trip_stamps.bind fun _ => Act.stamps_raise _
  refine hcount.bind fun c => ?_
  split
  · exact htrip _
  · split
    · exact htrip _
    · exact Act.stamps_raise r

theorem attempt_stamps (state : CircuitState) {act : Act σ α} (h : act.Stamps own) :
    (slot.attempt state act).Stamps own := by
  refine h.caught.bind fun result => ?_
  cases result with
  | ok a => exact (slot.succeed_stamps state).bind fun _ => Act.stamps_pure a
  | error r =>
    refine Act.stamps_outside.bind fun _ => ?_
    split
    · exact (slot.succeed_stamps state).bind fun _ => Act.stamps_raise r
    · exact slot.failCall_stamps state r

variable [Add T] [LT T] [DecidableLT T]

theorem call_stamps {act : Act σ α} (h : act.Stamps own) : (slot.call act).Stamps own := by
  refine slot.circuit_stamps.bind fun c => Act.stamps_outside.bind fun _ => ?_
  dsimp only
  split
  · split
    · exact Act.stamps_raise _
    · exact slot.halfOpen_stamps.bind fun _ => slot.attempt_stamps .halfOpen h
  · exact slot.attempt_stamps _ h

end CircuitSlot

namespace Pool

variable {e : Engine ω T}

theorem stageOf_stamps (job : Nat) : (stageOf? job : Act (Pool ω T) (Option JobStage)).Stamps own :=
  Act.stamps_outside.bind fun _ => Act.stamps_pure _

theorem engineCall_stamps (f : ω → Except Raised α × ω) :
    (engineCall f : Act (Pool ω T) α).Stamps own :=
  (Act.stamps_step _).bind fun _ => Act.stamps_given _

theorem closeCursor_stamps (cursor : Nat) : (closeCursor e cursor).Stamps own := by
  refine Act.stamps_outside.bind fun p => ?_
  split
  · exact Act.stamps_pure ()
  · split
    · exact Act.stamps_pure ()
    · exact (Act.stamps_change _).bind fun _ => (engineCall_stamps _).andFinally (engineCall_stamps _)

theorem releaseLate_stamps (job : Nat) : (releaseLate e job).Stamps own := by
  refine (stageOf_stamps job).bind fun stage => ?_
  split
  · exact (Act.stamps_log _ _ _).bind fun _ => (closeCursor_stamps _).caught.discard
  · exact Act.stamps_pure ()

theorem now_stamps : (now e).Stamps own :=
  Act.stamps_outside.bind fun _ => Act.stamps_pure _

section Opening

variable [Sub T] [OfNat T 0] [LT T] [LE T] [DecidableLT T] [DecidableLE T]

theorem connectFrom_stamps (plan : PoolPlan T) (deadline : Deadline T) (budget : Option (Deadline T))
    (left : Nat) : (connectFrom e plan deadline budget left).Stamps own := by
  have htry : ∀ attempt, (tryConnect e plan attempt).Stamps own := by
    refine fun attempt => (Act.stamps_step _).bind fun result => ?_
    cases result with
    | ok connection => exact Act.stamps_pure _
    | error r =>
      dsimp only
      split
      · exact (Act.stamps_log _ _ _).bind fun _ => Act.stamps_pure _
      · exact Act.stamps_raise r
  have htime : ∀ deadline, (noTimeAfter e plan.pause deadline).Stamps own :=
    fun _ => now_stamps.bind fun _ => Act.stamps_pure _
  have hout : (outOfTime e plan deadline budget).Stamps own := by
    unfold outOfTime
    cases budget with
    | none => exact htime deadline
    | some b =>
      refine (htime b).bind fun out => ?_
      split
      · exact Act.stamps_pure true
      · exact htime deadline
  have hpause : (pauseBetween e plan).Stamps own := by
    unfold pauseBetween
    split
    · exact Act.stamps_change _
    · exact Act.stamps_pure ()
  induction left with
  | zero =>
    refine (htry _).bind fun result => ?_
    cases result with
    | ok connection => exact Act.stamps_pure connection
    | error r => exact Act.stamps_raise _
  | succ left ih =>
    refine (htry _).bind fun result => ?_
    cases result with
    | ok connection => exact Act.stamps_pure connection
    | error r =>
      refine hout.bind fun out => ?_
      split
      · exact Act.stamps_raise _
      · exact hpause.bind fun _ => ih

variable [Add T]

theorem openStatement_stamps (plan : PoolPlan T) (sql : String) (deadline : Deadline T) :
    (openStatement e plan sql deadline).Stamps own := by
  have hacquire : (acquire e plan deadline).Stamps own := by
    unfold acquire
    cases plan.budget with
    | none => exact (Act.stamps_pure none).bind fun budget => connectFrom_stamps plan deadline budget _
    | some seconds =>
      refine Act.Stamps.bind ?_ fun budget => connectFrom_stamps plan deadline budget _
      exact (now_stamps.bind fun _ => Act.stamps_pure _).bind fun _ => Act.stamps_pure _
  refine hacquire.bind fun connection => (Act.stamps_step _).bind fun result => ?_
  cases result with
  | ok result => exact Act.stamps_step _
  | error r => exact (engineCall_stamps _).bind fun _ => Act.stamps_raise r

theorem work_stamps (plan : PoolPlan T) (job : Nat) : (work e plan job).Stamps own := by
  refine Act.stamps_outside.bind fun p => ?_
  cases p.jobs[job]? with
  | none => exact Act.stamps_pure ()
  | some j =>
    refine (Act.stamps_change _).bind fun _ => (Act.stamps_change _).bind fun _ =>
      (openStatement_stamps plan j.sql j.deadline).caught.bind fun result => ?_
    have hlast : (if j.abandoned then releaseLate e job else pure ()).Stamps own := by
      split
      · exact releaseLate_stamps job
      · exact Act.stamps_pure ()
    cases result with
    | ok cursor => exact (Act.stamps_change _).bind fun _ => hlast
    | error r => exact (Act.stamps_change _).bind fun _ => hlast

theorem openBounded_stamps (plan : PoolPlan T) (sql : String) (deadline : Deadline T) :
    (openBounded e plan sql deadline).Stamps own := by
  have hlate : ∀ job, (timedOut e job deadline : Act (Pool ω T) Nat).Stamps own := by
    refine fun job => Act.Stamps.bind ?_ fun _ => Act.stamps_fail _ _ _
    refine (stageOf_stamps job).bind fun stage => ?_
    split
    · exact Act.stamps_change _
    · exact (Act.stamps_change _).bind fun _ => releaseLate_stamps job
  have hsubmit : (submit sql deadline : Act (Pool ω T) Nat).Stamps own := by
    refine Act.stamps_outside.bind fun p => ?_
    split
    · exact Act.stamps_raise _
    · exact Act.stamps_step _
  refine hsubmit.bind fun job => Act.stamps_outside.bind fun p => ?_
  extract_lets answer waiting
  have hanswer : ∀ u, (answer u).Stamps own := by
    refine fun _ => (stageOf_stamps job).bind fun stage => ?_
    split
    · exact Act.stamps_pure _
    · split
      · exact hlate job
      · exact Act.stamps_raise _
    · exact Act.stamps_raise _
    · exact hlate job
  have hwaiting : ∀ u, (waiting u).Stamps own := fun _ =>
    now_stamps.bind fun _ => (Act.stamps_change _).bind hanswer
  cases e.turn p.engine with
  | atOnce => exact (work_stamps plan job).bind hanswer
  | later started =>
    cases started with
    | true => exact (Act.stamps_change _).bind hwaiting
    | false => exact hwaiting ()

theorem execute_stamps (plan : PoolPlan T) (sql label : String) (timeout : T) :
    (execute e plan sql label timeout).Stamps own := by
  refine (now_stamps.bind fun _ => Act.stamps_pure _).bind fun deadline =>
    Act.Stamps.bind ?_ fun _ => Act.stamps_pure _
  refine ((circuitSlot e).call_stamps (openBounded_stamps plan sql deadline)).onFault fun f => ?_
  split
  · exact Act.stamps_fail _ _ _
  · exact (Act.stamps_log _ _ _).bind fun _ => Act.stamps_fail _ _ _

theorem cursor_of_execute {plan : PoolPlan T} {sql label : String} {timeout : T}
    {s s' : Session (Pool ω T)} {cursor : Cursor (Pool ω T)}
    (h : (execute e plan sql label timeout).outcome s = (.ok cursor, s')) :
    cursor.Stamps own := by
  obtain ⟨n, rfl⟩ := Act.eq_of_bind_pure
    (a := deadlineAfter e label timeout >>= openGuarded e plan sql) (f := cursorOf e plan)
    (by rw [bind_assoc]; exact h)
  exact ⟨Act.stamps_outside.bind fun _ => Act.stamps_pure _, closeCursor_stamps n⟩

theorem ping_stamps (plan : PoolPlan T) (label : String) (timeout : T) :
    (ping e plan label timeout).Stamps own := by
  refine (execute_stamps plan pingStatement label timeout).bind_of fun s cursor s' h => ?_
  refine (cursor_of_execute h).use (Act.Stamps.onFault ?_ fun f => ?_)
  · exact cursor.rows.fold_stamps (fun _ _ => Act.stamps_pure _) ()
  · exact (Act.stamps_log _ _ _).bind fun _ => Act.stamps_fail _ _ _

end Opening

end Pool

/-- Whatever the engine does, a pooled handle stamps its lines, but for the pool's own. -/
theorem pooledHandle_stamps (e : Engine ω Float) (plan : PoolPlan Float) :
    (pooledHandle e plan).Stamps (·.logger = poolLogger) where
  execute text _ := Pool.execute_stamps plan text _ _
  cursor _ _ _ _ _ h := Pool.cursor_of_execute h
  ping _ := Pool.ping_stamps plan _ _
  dispose := (Act.stamps_change _).bind fun _ => Act.stamps_change _

end QueryGate
