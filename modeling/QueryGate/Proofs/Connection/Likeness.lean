import Mathlib.Data.List.Forall2
import QueryGate.Connection.Pool
import QueryGate.Proofs.Alike
/-! Pools over engines that behave alike. Whatever is asked of two such pools, with the same plan and the
same circuit, they give the same answers, raise the same errors and log the same lines. -/

namespace QueryGate

variable {ω₁ ω₂ : Type} {R : ω₁ → ω₂ → Prop}

/-- From states that go together, two engines give the same answers and reach states that go together. -/
structure Engine.Alike (R : ω₁ → ω₂ → Prop) (e₁ : Engine ω₁ Float) (e₂ : Engine ω₂ Float) : Prop where
  now : ∀ w₁ w₂, R w₁ w₂ → e₁.now w₁ = e₂.now w₂
  turn : ∀ w₁ w₂, R w₁ w₂ → e₁.turn w₁ = e₂.turn w₂
  columns : ∀ result w₁ w₂, R w₁ w₂ → e₁.columns result w₁ = e₂.columns result w₂
  fetchesLeft : ∀ result w₁ w₂, R w₁ w₂ → e₁.fetchesLeft result w₁ = e₂.fetchesLeft result w₂
  sleep : ∀ t w₁ w₂, R w₁ w₂ → R (e₁.sleep t w₁) (e₂.sleep t w₂)
  wait : ∀ t w₁ w₂, R w₁ w₂ → R (e₁.wait t w₁) (e₂.wait t w₂)
  begin : ∀ w₁ w₂, R w₁ w₂ → R (e₁.begin w₁) (e₂.begin w₂)
  dispose : ∀ w₁ w₂, R w₁ w₂ → R (e₁.dispose w₁) (e₂.dispose w₂)
  connect : ∀ w₁ w₂, R w₁ w₂ →
    (e₁.connect w₁).1 = (e₂.connect w₂).1 ∧ R (e₁.connect w₁).2 (e₂.connect w₂).2
  run : ∀ connection sql w₁ w₂, R w₁ w₂ → (e₁.run connection sql w₁).1 = (e₂.run connection sql w₂).1 ∧
    R (e₁.run connection sql w₁).2 (e₂.run connection sql w₂).2
  fetch : ∀ result size w₁ w₂, R w₁ w₂ → (e₁.fetch result size w₁).1 = (e₂.fetch result size w₂).1 ∧
    R (e₁.fetch result size w₁).2 (e₂.fetch result size w₂).2
  closeResult : ∀ result w₁ w₂, R w₁ w₂ → (e₁.closeResult result w₁).1 = (e₂.closeResult result w₂).1 ∧
    R (e₁.closeResult result w₁).2 (e₂.closeResult result w₂).2
  closeConnection : ∀ connection w₁ w₂, R w₁ w₂ →
    (e₁.closeConnection connection w₁).1 = (e₂.closeConnection connection w₂).1 ∧
      R (e₁.closeConnection connection w₁).2 (e₂.closeConnection connection w₂).2

namespace Pool

/-- Pools that differ in their engines alone. -/
structure Alike (R : ω₁ → ω₂ → Prop) (p₁ : Pool ω₁ Float) (p₂ : Pool ω₂ Float) : Prop where
  engine : R p₁.engine p₂.engine
  circuit : p₁.circuit = p₂.circuit
  jobs : p₁.jobs = p₂.jobs
  cursors : p₁.cursors = p₂.cursors
  shutDown : p₁.shutDown = p₂.shutDown

variable {α : Type} {e₁ : Engine ω₁ Float} {e₂ : Engine ω₂ Float}

theorem alike_engineStep {f₁ : ω₁ → α × ω₁} {f₂ : ω₂ → α × ω₂}
    (h : ∀ w₁ w₂, R w₁ w₂ → (f₁ w₁).1 = (f₂ w₂).1 ∧ R (f₁ w₁).2 (f₂ w₂).2) :
    Act.Alike (Alike R) Eq (engineStep f₁ : Act (Pool ω₁ Float) α) (engineStep f₂ : Act (Pool ω₂ Float) α) := by
  refine Act.alike_step fun p₁ p₂ hp => ?_
  obtain ⟨hvalue, hengine⟩ := h p₁.engine p₂.engine hp.engine
  exact ⟨hvalue, hengine, hp.circuit, hp.jobs, hp.cursors, hp.shutDown⟩

theorem alike_engineCall {f₁ : ω₁ → Except Raised α × ω₁} {f₂ : ω₂ → Except Raised α × ω₂}
    (h : ∀ w₁ w₂, R w₁ w₂ → (f₁ w₁).1 = (f₂ w₂).1 ∧ R (f₁ w₁).2 (f₂ w₂).2) :
    Act.Alike (Alike R) Eq (engineCall f₁ : Act (Pool ω₁ Float) α) (engineCall f₂ : Act (Pool ω₂ Float) α) :=
  (alike_engineStep h).bindSame fun result => Act.alike_given (.refl result)

theorem alike_engineMove {f₁ : ω₁ → ω₁} {f₂ : ω₂ → ω₂} (h : ∀ w₁ w₂, R w₁ w₂ → R (f₁ w₁) (f₂ w₂)) :
    Act.Alike (Alike R) Eq (engineMove f₁ : Act (Pool ω₁ Float) Unit)
      (engineMove f₂ : Act (Pool ω₂ Float) Unit) :=
  Act.alike_change fun p₁ p₂ hp =>
    ⟨h p₁.engine p₂.engine hp.engine, hp.circuit, hp.jobs, hp.cursors, hp.shutDown⟩

theorem alike_jobs (f : List (Job Float) → List (Job Float)) :
    Act.Alike (Alike R) Eq (Act.change fun p => { p with jobs := f p.jobs } : Act (Pool ω₁ Float) Unit)
      (Act.change fun p => { p with jobs := f p.jobs } : Act (Pool ω₂ Float) Unit) :=
  Act.alike_change fun _ _ hp =>
    ⟨hp.engine, hp.circuit, congrArg f hp.jobs, hp.cursors, hp.shutDown⟩

theorem alike_setStage (job : Nat) (stage : JobStage) :
    Act.Alike (Alike R) Eq (setStage job stage : Act (Pool ω₁ Float) Unit)
      (setStage job stage : Act (Pool ω₂ Float) Unit) :=
  alike_jobs fun jobs => jobs.modify job fun j => { j with stage }

theorem alike_stageOf (job : Nat) :
    Act.Alike (Alike R) Eq (stageOf? job : Act (Pool ω₁ Float) (Option JobStage))
      (stageOf? job : Act (Pool ω₂ Float) (Option JobStage)) := by
  refine Act.alike_outside.bind fun p₁ p₂ hp => Act.alike_pure ?_
  rw [hp.jobs]

theorem alike_submit (sql : String) (deadline : Deadline Float) :
    Act.Alike (Alike R) Eq (submit sql deadline : Act (Pool ω₁ Float) Nat)
      (submit sql deadline : Act (Pool ω₂ Float) Nat) := by
  refine Act.alike_outside.bind fun p₁ p₂ hp => ?_
  rw [hp.shutDown]
  split
  · exact Act.alike_raise _
  · refine Act.alike_step fun q₁ q₂ hq => ⟨congrArg List.length hq.jobs, ?_⟩
    exact ⟨hq.engine, hq.circuit, by rw [hq.jobs], hq.cursors, hq.shutDown⟩

theorem alike_update (f : Circuit Float → Circuit Float) :
    Act.Alike (Alike R) Eq ((circuitSlot e₁).update f) ((circuitSlot e₂).update f) :=
  Act.alike_change fun _ _ hp =>
    ⟨hp.engine, congrArg f hp.circuit, hp.jobs, hp.cursors, hp.shutDown⟩

theorem alike_circuit : Act.Alike (Alike R) Eq (circuitSlot e₁).circuit (circuitSlot e₂).circuit :=
  Act.alike_outside.bind fun _ _ hp => Act.alike_pure hp.circuit

theorem alike_close : Act.Alike (Alike R) Eq (circuitSlot e₁).close (circuitSlot e₂).close :=
  alike_circuit.bindSame fun _ => (Act.alike_log _ _ _).bindSame fun _ => alike_update _

theorem alike_halfOpen : Act.Alike (Alike R) Eq (circuitSlot e₁).halfOpen (circuitSlot e₂).halfOpen :=
  alike_circuit.bindSame fun _ => (Act.alike_log _ _ _).bindSame fun _ => alike_update _

theorem alike_succeed (state : CircuitState) :
    Act.Alike (Alike R) Eq ((circuitSlot e₁).succeed state) ((circuitSlot e₂).succeed state) := by
  refine (alike_update _).bindSame fun _ => ?_
  split
  · exact alike_close
  · exact Act.alike_pure rfl

section Engines

variable (h : Engine.Alike R e₁ e₂)

include h

theorem alike_closeCursor (cursor : Nat) :
    Act.Alike (Alike R) Eq (closeCursor e₁ cursor) (closeCursor e₂ cursor) := by
  refine Act.alike_outside.bind fun p₁ p₂ hp => ?_
  rw [hp.cursors]
  cases p₂.cursors[cursor]? with
  | none => exact Act.alike_pure rfl
  | some c =>
    dsimp only
    split
    · exact Act.alike_pure rfl
    · refine Act.Alike.bindSame (Act.alike_change fun q₁ q₂ hq => ?_) fun _ => ?_
      · exact ⟨hq.engine, hq.circuit, hq.jobs, by rw [hq.cursors], hq.shutDown⟩
      · exact (alike_engineCall (h.closeResult _)).andFinally (alike_engineCall (h.closeConnection _))

theorem alike_releaseLate (job : Nat) :
    Act.Alike (Alike R) Eq (releaseLate e₁ job) (releaseLate e₂ job) := by
  refine (alike_stageOf job).bindSame fun stage => ?_
  split
  · exact (Act.alike_log _ _ _).bindSame fun _ => (alike_closeCursor h _).caught.discard
  · exact Act.alike_pure rfl

theorem alike_tryConnect (plan : PoolPlan Float) (attempt : Nat) :
    Act.Alike (Alike R) Eq (tryConnect e₁ plan attempt) (tryConnect e₂ plan attempt) := by
  refine (alike_engineStep h.connect).bindSame fun result => ?_
  cases result with
  | ok connection => exact Act.alike_pure rfl
  | error r =>
    dsimp only
    split
    · exact (Act.alike_log _ _ _).bindSame fun _ => Act.alike_pure rfl
    · exact Act.alike_raise r

theorem alike_now : Act.Alike (Alike R) Eq (now e₁) (now e₂) :=
  Act.alike_outside.bind fun _ _ hp => Act.alike_pure (h.now _ _ hp.engine)

theorem alike_deadlineAfter (label : String) (timeout : Float) :
    Act.Alike (Alike R) Eq (deadlineAfter e₁ label timeout) (deadlineAfter e₂ label timeout) :=
  (alike_now h).bindSame fun _ => Act.alike_pure rfl

theorem alike_noTimeAfter (pause : Float) (deadline : Deadline Float) :
    Act.Alike (Alike R) Eq (noTimeAfter e₁ pause deadline) (noTimeAfter e₂ pause deadline) :=
  (alike_now h).bindSame fun _ => Act.alike_pure rfl

theorem alike_outOfTime (plan : PoolPlan Float) (deadline : Deadline Float) (budget : Option (Deadline Float)) :
    Act.Alike (Alike R) Eq (outOfTime e₁ plan deadline budget) (outOfTime e₂ plan deadline budget) := by
  unfold outOfTime
  cases budget with
  | none => exact alike_noTimeAfter h plan.pause deadline
  | some b =>
    refine (alike_noTimeAfter h plan.pause b).bindSame fun out => ?_
    split
    · exact Act.alike_pure rfl
    · exact alike_noTimeAfter h plan.pause deadline

theorem alike_pauseBetween (plan : PoolPlan Float) :
    Act.Alike (Alike R) Eq (pauseBetween e₁ plan) (pauseBetween e₂ plan) := by
  unfold pauseBetween
  split
  · exact alike_engineMove (h.sleep plan.pause)
  · exact Act.alike_pure rfl

theorem alike_connectFrom (plan : PoolPlan Float) (deadline : Deadline Float) (budget : Option (Deadline Float))
    (left : Nat) : Act.Alike (Alike R) Eq (connectFrom e₁ plan deadline budget left)
      (connectFrom e₂ plan deadline budget left) := by
  induction left with
  | zero =>
    refine (alike_tryConnect h plan _).bindSame fun result => ?_
    cases result with
    | ok connection => exact Act.alike_pure rfl
    | error r => exact Act.alike_raise _
  | succ left ih =>
    refine (alike_tryConnect h plan _).bindSame fun result => ?_
    cases result with
    | ok connection => exact Act.alike_pure rfl
    | error r =>
      refine (alike_outOfTime h plan deadline budget).bindSame fun out => ?_
      split
      · exact Act.alike_raise _
      · exact (alike_pauseBetween h plan).bindSame fun _ => ih

theorem alike_acquire (plan : PoolPlan Float) (deadline : Deadline Float) :
    Act.Alike (Alike R) Eq (acquire e₁ plan deadline) (acquire e₂ plan deadline) := by
  unfold acquire
  cases plan.budget with
  | none =>
    exact (Act.alike_pure rfl).bindSame fun budget => alike_connectFrom h plan deadline budget _
  | some seconds =>
    refine Act.Alike.bindSame ?_ fun budget => alike_connectFrom h plan deadline budget _
    exact (alike_deadlineAfter h seconds.1 seconds.2).bindSame fun _ => Act.alike_pure rfl

theorem alike_openStatement (plan : PoolPlan Float) (sql : String) (deadline : Deadline Float) :
    Act.Alike (Alike R) Eq (openStatement e₁ plan sql deadline) (openStatement e₂ plan sql deadline) := by
  refine (alike_acquire h plan deadline).bindSame fun connection => ?_
  refine (alike_engineStep (h.run connection sql)).bindSame fun result => ?_
  cases result with
  | ok result =>
    refine Act.alike_step fun p₁ p₂ hp => ⟨congrArg List.length hp.cursors, ?_⟩
    exact ⟨hp.engine, hp.circuit, hp.jobs, by rw [hp.cursors], hp.shutDown⟩
  | error r =>
    exact (alike_engineCall (h.closeConnection connection)).bindSame fun _ => Act.alike_raise r

theorem alike_work (plan : PoolPlan Float) (job : Nat) :
    Act.Alike (Alike R) Eq (work e₁ plan job) (work e₂ plan job) := by
  refine Act.alike_outside.bind fun p₁ p₂ hp => ?_
  rw [hp.jobs]
  cases p₂.jobs[job]? with
  | none => exact Act.alike_pure rfl
  | some j =>
    refine (alike_setStage job .running).bindSame fun _ => ?_
    refine (alike_engineMove h.begin).bindSame fun _ => ?_
    refine (alike_openStatement h plan j.sql j.deadline).caughtSame.bindSame fun result => ?_
    have hlast : Act.Alike (Alike R) Eq (if j.abandoned then releaseLate e₁ job else pure ())
        (if j.abandoned then releaseLate e₂ job else pure ()) := by
      split
      · exact alike_releaseLate h job
      · exact Act.alike_pure rfl
    cases result with
    | ok cursor => exact (alike_setStage job (.opened cursor)).bindSame fun _ => hlast
    | error r => exact (alike_setStage job (.failed r)).bindSame fun _ => hlast

theorem alike_abandon (job : Nat) : Act.Alike (Alike R) Eq (abandon e₁ job) (abandon e₂ job) := by
  refine (alike_stageOf job).bindSame fun stage => ?_
  split
  · exact alike_setStage job .cancelled
  · exact (alike_jobs _).bindSame fun _ => alike_releaseLate h job

theorem alike_timedOut (job : Nat) (deadline : Deadline Float) :
    Act.Alike (Alike R) Eq (timedOut e₁ job deadline : Act (Pool ω₁ Float) α)
      (timedOut e₂ job deadline : Act (Pool ω₂ Float) α) :=
  (alike_abandon h job).bindSame fun _ => Act.alike_raise _

theorem alike_openBounded (plan : PoolPlan Float) (sql : String) (deadline : Deadline Float) :
    Act.Alike (Alike R) Eq (openBounded e₁ plan sql deadline) (openBounded e₂ plan sql deadline) := by
  refine (alike_submit sql deadline).bindSame fun job => Act.alike_outside.bind fun p₁ p₂ hp => ?_
  rw [h.turn _ _ hp.engine]
  extract_lets answer₁ waiting₁ answer₂ waiting₂
  have hanswer : ∀ u, Act.Alike (Alike R) Eq (answer₁ u) (answer₂ u) := by
    refine fun _ => (alike_stageOf job).bindSame fun stage => ?_
    split
    · exact Act.alike_pure rfl
    · split
      · exact alike_timedOut h job deadline
      · exact Act.alike_raise _
    · exact Act.alike_raise _
    · exact alike_timedOut h job deadline
  have hwaiting : ∀ u, Act.Alike (Alike R) Eq (waiting₁ u) (waiting₂ u) := fun _ =>
    (alike_now h).bindSame fun now => (alike_engineMove (h.wait (deadline.remaining now))).bindSame hanswer
  cases e₂.turn p₂.engine with
  | atOnce => exact (alike_work h plan job).bindSame hanswer
  | later started =>
    cases started with
    | true => exact (alike_setStage job .running).bindSame hwaiting
    | false => exact hwaiting ()

theorem alike_trip : Act.Alike (Alike R) Eq (circuitSlot e₁).trip (circuitSlot e₂).trip := by
  refine Act.alike_outside.bind fun p₁ p₂ hp => alike_circuit.bindSame fun _ => ?_
  have hnow : (circuitSlot e₁).now p₁ = (circuitSlot e₂).now p₂ := h.now _ _ hp.engine
  rw [hnow]
  exact (Act.alike_log _ _ _).bindSame fun _ => alike_update _

theorem alike_failCall (state : CircuitState) (r : Raised) :
    Act.Alike (Alike R) Eq ((circuitSlot e₁).failCall state r : Act (Pool ω₁ Float) α)
      ((circuitSlot e₂).failCall state r : Act (Pool ω₂ Float) α) := by
  have hcount : Act.Alike (Alike R) Eq ((circuitSlot e₁).countFailure r)
      ((circuitSlot e₂).countFailure r) :=
    (alike_update _).bindSame fun _ => alike_circuit.bindSame fun _ =>
      (Act.alike_log _ _ _).bindSame fun _ => Act.alike_pure rfl
  refine hcount.bindSame fun c => ?_
  have hrefuse : ∀ message, Act.Alike (Alike R) Eq
      (do (circuitSlot e₁).trip
          CircuitSlot.refuse message : Act (Pool ω₁ Float) α)
      (do (circuitSlot e₂).trip
          CircuitSlot.refuse message : Act (Pool ω₂ Float) α) :=
    fun message => (alike_trip h).bindSame fun _ => Act.alike_raise _
  split
  · exact hrefuse _
  · split
    · exact hrefuse _
    · exact Act.alike_raise r

theorem alike_attempt (state : CircuitState) {a₁ : Act (Pool ω₁ Float) α} {a₂ : Act (Pool ω₂ Float) α}
    (ha : Act.Alike (Alike R) Eq a₁ a₂) :
    Act.Alike (Alike R) Eq ((circuitSlot e₁).attempt state a₁) ((circuitSlot e₂).attempt state a₂) := by
  refine ha.caughtSame.bindSame fun result => ?_
  cases result with
  | ok x => exact (alike_succeed state).bindSame fun _ => Act.alike_pure rfl
  | error r =>
    refine Act.alike_outside.bind fun p₁ p₂ hp => ?_
    have hcircuit : (circuitSlot e₁).get p₁ = (circuitSlot e₂).get p₂ := hp.circuit
    rw [hcircuit]
    split
    · exact (alike_succeed state).bindSame fun _ => Act.alike_raise r
    · exact alike_failCall h state r

theorem alike_call {a₁ : Act (Pool ω₁ Float) α} {a₂ : Act (Pool ω₂ Float) α}
    (ha : Act.Alike (Alike R) Eq a₁ a₂) :
    Act.Alike (Alike R) Eq ((circuitSlot e₁).call a₁) ((circuitSlot e₂).call a₂) := by
  refine alike_circuit.bindSame fun c => Act.alike_outside.bind fun p₁ p₂ hp => ?_
  have hnow : (circuitSlot e₁).now p₁ = (circuitSlot e₂).now p₂ := h.now _ _ hp.engine
  rw [hnow]
  split
  · dsimp only
    split
    · exact Act.alike_raise _
    · exact alike_halfOpen.bindSame fun _ => alike_attempt h .halfOpen ha
  · exact alike_attempt h _ ha

theorem alike_openGuarded (plan : PoolPlan Float) (sql : String) (deadline : Deadline Float) :
    Act.Alike (Alike R) Eq (openGuarded e₁ plan sql deadline) (openGuarded e₂ plan sql deadline) := by
  refine (alike_call h (alike_openBounded h plan sql deadline)).onFault fun f => ?_
  split
  · exact Act.alike_raise _
  · exact (Act.alike_log _ _ _).bindSame fun _ => Act.alike_raise _

theorem alike_batches (size : Nat) (cursor : OpenCursor Float) (left : Nat) :
    Rows.Alike (Alike R) (batches e₁ size cursor left) (batches e₂ size cursor left) := by
  induction left with
  | zero => exact .done
  | succ left ih =>
    refine .fetch (fun p₁ p₂ hp => ?_) fun p₁ p₂ hp => ?_
    · rw [h.now _ _ hp.engine]
      split
      · exact hp
      · exact ⟨(h.fetch cursor.result size _ _ hp.engine).2, hp.circuit, hp.jobs, hp.cursors, hp.shutDown⟩
    · rw [h.now _ _ hp.engine, (h.fetch cursor.result size _ _ hp.engine).1]
      split
      · exact .broken _
      · split
        · exact .broken _
        · exact .done
        · exact ih.batch _

theorem alike_cursorOf (plan : PoolPlan Float) (cursor : Nat) :
    Cursor.Alike (Alike R) (cursorOf e₁ plan cursor) (cursorOf e₂ plan cursor) where
  columns := by
    refine Act.alike_outside.bind fun p₁ p₂ hp => Act.alike_pure ?_
    have hcolumns := fun (c : OpenCursor Float) => h.columns c.result _ _ hp.engine
    simp only [hp.cursors, hcolumns]
  rows := by
    refine .fetch (fun _ _ hp => hp) fun p₁ p₂ hp => ?_
    rw [hp.cursors]
    split
    · exact .done
    · rename_i c _
      rw [h.columns c.result _ _ hp.engine, h.fetchesLeft c.result _ _ hp.engine]
      split
      · exact .done
      · exact alike_batches h _ c _
  close := alike_closeCursor h cursor

theorem alike_execute (plan : PoolPlan Float) (sql label : String) (timeout : Float) :
    Act.Alike (Alike R) (Cursor.Alike (Alike R)) (execute e₁ plan sql label timeout)
      (execute e₂ plan sql label timeout) :=
  (alike_deadlineAfter h label timeout).bindSame fun deadline =>
    (alike_openGuarded h plan sql deadline).bindSame fun cursor =>
      Act.alike_pure (alike_cursorOf h plan cursor)

theorem alike_ping (plan : PoolPlan Float) (label : String) (timeout : Float) :
    Act.Alike (Alike R) Eq (ping e₁ plan label timeout) (ping e₂ plan label timeout) := by
  refine (alike_execute h plan pingStatement label timeout).bind fun c₁ c₂ hc => ?_
  refine Act.Alike.andFinally ?_ hc.close
  refine (hc.rows.fold (fun _ _ => Act.alike_pure rfl) ()).onFault fun f => ?_
  exact (Act.alike_log _ _ _).bindSame fun _ => Act.alike_raise _

theorem alike_dispose : Act.Alike (Alike R) Eq (dispose e₁) (dispose e₂) := by
  refine Act.Alike.bindSame (Act.alike_change fun p₁ p₂ hp => ?_) fun _ => alike_engineMove h.dispose
  exact ⟨hp.engine, hp.circuit, by rw [hp.jobs], hp.cursors, rfl⟩

theorem alike_finishLate (plan : PoolPlan Float) :
    Act.Alike (Alike R) Eq (finishLate e₁ plan) (finishLate e₂ plan) := by
  refine Act.alike_outside.bind fun p₁ p₂ hp => ?_
  rw [hp.jobs]
  refine Act.Alike.bindSame (Act.Alike.filterMapM (fun job => ?_) _) fun stages => ?_
  · refine (alike_stageOf job).bindSame fun stage => ?_
    split
    · exact (alike_work h plan job).bindSame fun _ => alike_stageOf job
    · exact Act.alike_pure rfl
    · exact Act.alike_pure rfl
  · exact (alike_jobs fun _ => []).bindSame fun _ => Act.alike_pure rfl

/-- Handles over engines that behave alike are alike. -/
theorem pooledHandle_alike (plan : PoolPlan Float) :
    Handle.Alike (Alike R) (pooledHandle e₁ plan) (pooledHandle e₂ plan) where
  execute sql timeout := alike_execute h plan sql timeout.text timeout.toFloat
  ping timeout := alike_ping h plan timeout.text timeout.toFloat
  dispose := alike_dispose h
  circuit _ _ hp := congrArg (fun c => c.state.label) hp.circuit

end Engines

end Pool

/-! What a user sees of a handle. -/

/-- A call of a user, or what happens between two of them. Cursors go by the order in which they were
opened. -/
inductive Call
  | execute (sql : String) (timeout : Amount)
  | ping (timeout : Amount)
  | checkHealth (timeout : Amount)
  | dispose
  | columns (cursor : Nat)
  /-- Reads so many rows at most. -/
  | rows (cursor count : Nat)
  | close (cursor : Nat)
  /-- So many seconds go by. -/
  | pass (seconds : Float)
  /-- The jobs whose callers gave up come to their end. -/
  | late

inductive Answer
  | done
  | health (h : Health)
  | columns (names : List String)
  | rows (rows : List (List Cell))
  | late (stages : List JobStage)

/-- Reads so many rows at most, starting with those read before. -/
def Rows.read {σ : Type} (rows : Rows σ) (count : Nat) : Act σ (List (List Cell)) :=
  rows.fold (fun read cells => pure (if read.length + 1 < count then .yield (read ++ [cells])
    else .done (read ++ [cells]))) []

section Users

variable {ω : Type} (e : Engine ω Float) (plan : PoolPlan Float)

/-- The answer to a call, and the cursor that it opens if it opens one. -/
def Call.act (cursors : List (Cursor (Pool ω Float))) :
    Call → Act (Pool ω Float) (Answer × List (Cursor (Pool ω Float)))
  | .execute sql timeout => do return (.done, [← (pooledHandle e plan).execute sql timeout])
  | .ping timeout => do
    (pooledHandle e plan).ping timeout
    return (.done, [])
  | .checkHealth timeout => do return (.health (← QueryGate.checkHealth (pooledHandle e plan) timeout), [])
  | .dispose => do
    (pooledHandle e plan).dispose
    return (.done, [])
  | .columns cursor =>
    match cursors[cursor]? with
    | some c => do return (.columns (← c.columns), [])
    | none => return (.done, [])
  | .rows cursor count =>
    match cursors[cursor]? with
    | some c => do return (.rows (← c.rows.read count), [])
    | none => return (.done, [])
  | .close cursor =>
    match cursors[cursor]? with
    | some c => do
      c.close
      return (.done, [])
    | none => return (.done, [])
  | .pass seconds => do
    Pool.engineMove (e.sleep seconds)
    return (.done, [])
  | .late => do return (.late (← Pool.finishLate e plan), [])

/-- The answers to calls one after the other, each with the log after it. -/
def seen (cursors : List (Cursor (Pool ω Float))) :
    List Call → Session (Pool ω Float) → List (Except Raised Answer × List LogEntry)
  | [], _ => []
  | call :: calls, s =>
    match (call.act e plan cursors).outcome s with
    | (.ok (answer, opened), s') => (.ok answer, s'.log) :: seen (cursors ++ opened) calls s'
    | (.error r, s') => (.error r, s'.log) :: seen cursors calls s'

end Users

section Likeness

variable {e₁ : Engine ω₁ Float} {e₂ : Engine ω₂ Float} (h : Engine.Alike R e₁ e₂) (plan : PoolPlan Float)

/-- The same answer, with cursors that are alike. -/
def AnswersAlike (R : ω₁ → ω₂ → Prop) (a : Answer × List (Cursor (Pool ω₁ Float)))
    (b : Answer × List (Cursor (Pool ω₂ Float))) : Prop :=
  a.1 = b.1 ∧ List.Forall₂ (Cursor.Alike (Pool.Alike R)) a.2 b.2

theorem Rows.Alike.read {σ₁ σ₂ : Type} {R : σ₁ → σ₂ → Prop} {rows₁ : Rows σ₁} {rows₂ : Rows σ₂}
    (h : Rows.Alike R rows₁ rows₂) (count : Nat) :
    Act.Alike R Eq (rows₁.read count) (rows₂.read count) :=
  h.fold (fun _ _ => Act.alike_pure rfl) []

theorem getElem?_alike {σ₁ σ₂ : Type} {R : σ₁ → σ₂ → Prop} {cs₁ : List (Cursor σ₁)} {cs₂ : List (Cursor σ₂)}
    (hcs : List.Forall₂ (Cursor.Alike R) cs₁ cs₂) (i : Nat) :
    (cs₁[i]? = none ∧ cs₂[i]? = none) ∨
      ∃ c₁ c₂, cs₁[i]? = some c₁ ∧ cs₂[i]? = some c₂ ∧ Cursor.Alike R c₁ c₂ := by
  induction hcs generalizing i with
  | nil => exact Or.inl ⟨rfl, rfl⟩
  | cons hc _ ih =>
    cases i with
    | zero => exact Or.inr ⟨_, _, rfl, rfl, hc⟩
    | succ i => simpa using ih i

include h

theorem Call.act_alike {cs₁ : List (Cursor (Pool ω₁ Float))} {cs₂ : List (Cursor (Pool ω₂ Float))}
    (hcs : List.Forall₂ (Cursor.Alike (Pool.Alike R)) cs₁ cs₂) (call : Call) :
    Act.Alike (Pool.Alike R) (AnswersAlike R) (call.act e₁ plan cs₁) (call.act e₂ plan cs₂) := by
  have hhandle := Pool.pooledHandle_alike h plan
  have hsame : ∀ answer, AnswersAlike R (answer, []) (answer, []) := fun _ => ⟨rfl, .nil⟩
  cases call with
  | execute sql timeout =>
    exact (hhandle.execute sql timeout).bind fun _ _ hc => Act.alike_pure ⟨rfl, .cons hc .nil⟩
  | ping timeout => exact (hhandle.ping timeout).bindSame fun _ => Act.alike_pure (hsame _)
  | checkHealth timeout => exact (hhandle.checkHealth timeout).bindSame fun _ => Act.alike_pure (hsame _)
  | dispose => exact hhandle.dispose.bindSame fun _ => Act.alike_pure (hsame _)
  | columns cursor =>
    rcases getElem?_alike hcs cursor with ⟨hc₁, hc₂⟩ | ⟨c₁, c₂, hc₁, hc₂, hc⟩
    · simp only [Call.act, hc₁, hc₂]
      exact Act.alike_pure (hsame _)
    · simp only [Call.act, hc₁, hc₂]
      exact hc.columns.bindSame fun _ => Act.alike_pure (hsame _)
  | rows cursor count =>
    rcases getElem?_alike hcs cursor with ⟨hc₁, hc₂⟩ | ⟨c₁, c₂, hc₁, hc₂, hc⟩
    · simp only [Call.act, hc₁, hc₂]
      exact Act.alike_pure (hsame _)
    · simp only [Call.act, hc₁, hc₂]
      exact (hc.rows.read count).bindSame fun _ => Act.alike_pure (hsame _)
  | close cursor =>
    rcases getElem?_alike hcs cursor with ⟨hc₁, hc₂⟩ | ⟨c₁, c₂, hc₁, hc₂, hc⟩
    · simp only [Call.act, hc₁, hc₂]
      exact Act.alike_pure (hsame _)
    · simp only [Call.act, hc₁, hc₂]
      exact hc.close.bindSame fun _ => Act.alike_pure (hsame _)
  | pass seconds =>
    exact (Pool.alike_engineMove (h.sleep seconds)).bindSame fun _ => Act.alike_pure (hsame _)
  | late => exact (Pool.alike_finishLate h plan).bindSame fun _ => Act.alike_pure (hsame _)

/-- Whatever calls are made of two handles over engines that behave alike, the same is seen of them. -/
theorem seen_alike (calls : List Call) {cs₁ : List (Cursor (Pool ω₁ Float))}
    {cs₂ : List (Cursor (Pool ω₂ Float))} (hcs : List.Forall₂ (Cursor.Alike (Pool.Alike R)) cs₁ cs₂)
    {s₁ : Session (Pool ω₁ Float)} {s₂ : Session (Pool ω₂ Float)}
    (hs : Session.Alike (Pool.Alike R) s₁ s₂) : seen e₁ plan cs₁ calls s₁ = seen e₂ plan cs₂ calls s₂ := by
  induction calls generalizing cs₁ cs₂ s₁ s₂ with
  | nil => rfl
  | cons call calls ih =>
    have hends := Call.act_alike h plan hcs call s₁ s₂ hs
    unfold seen
    generalize (call.act e₁ plan cs₁).outcome s₁ = o₁ at hends
    generalize (call.act e₂ plan cs₂).outcome s₂ = o₂ at hends
    obtain ⟨result₁, s₁'⟩ := o₁
    obtain ⟨result₂, s₂'⟩ := o₂
    obtain ⟨hresult, hs'⟩ := hends
    dsimp only at hresult hs'
    cases hresult with
    | @ok a b hab =>
      obtain ⟨answer₁, opened₁⟩ := a
      obtain ⟨answer₂, opened₂⟩ := b
      obtain ⟨hanswer, hopened⟩ := hab
      obtain rfl : answer₁ = answer₂ := hanswer
      dsimp only
      rw [hs'.log, ih (List.rel_append hcs hopened) hs']
    | error r =>
      dsimp only
      rw [hs'.log, ih hcs hs']

end Likeness

end QueryGate
