import QueryGate.Proofs.Connection.JobInvariant
/-! The calls of a pool, each from its start to its end. What a call does with nothing in between is one of
the orders in which its steps can come. -/

namespace QueryGate

namespace World

variable {ω T : Type} {e : Engine ω T} {w : World ω T} {k : Nat}

theorem call_moveCall {c c' : CallPoint} (h : w.calls[k]? = some c) :
    (w.moveCall k c').calls[k]? = some c' :=
  List.getElem?_set_self (List.getElem?_eq_some_iff.mp h).1

theorem stage_leaveCallback {stage : JobStage} (h : w.stage? k = some stage) :
    (w.after (leaveCallback k)).stage? k = some stage := by
  obtain ⟨j, hj, rfl⟩ := Option.map_eq_some_iff.mp h
  have hjobs : (w.after (leaveCallback k)).jobs = w.jobs.modify k fun j => { j with abandoned := true } :=
    rfl
  unfold stage?
  rw [hjobs, List.getElem?_modify_eq, hj]
  rfl

theorem release_session (w : World ω T) (e : Engine ω T) (k : Nat) :
    (w.release e k).session = ((Pool.releaseLate e.recorded k).outcome w.session).2 := by
  unfold release
  split <;> rfl

theorem releaseLate_of_running (h : w.stage? k = some .running) :
    (Pool.releaseLate e.recorded k).outcome w.session = (.ok (), w.session) := by
  have hs : w.session.holdings.jobs[k]?.map Job.stage = some .running := h
  unfold Pool.releaseLate
  rw [Act.outcome_bind, Pool.outcome_stageOf, hs]
  rfl

theorem abandon_of_queued (h : w.stage? k = some .queued) :
    (Pool.abandon e.recorded k).outcome w.session =
      (Pool.setStage k .cancelled).outcome w.session := by
  have hs : w.session.holdings.jobs[k]?.map Job.stage = some .queued := h
  unfold Pool.abandon
  rw [Act.outcome_bind, Pool.outcome_stageOf, hs]

theorem abandon_of_not_queued (h : w.stage? k ≠ some .queued) :
    (Pool.abandon e.recorded k).outcome w.session =
      (Pool.releaseLate e.recorded k).outcome (w.after (leaveCallback k)).session := by
  have hs : w.session.holdings.jobs[k]?.map Job.stage ≠ some .queued := h
  unfold Pool.abandon
  rw [Act.outcome_bind, Pool.outcome_stageOf]
  dsimp only
  split
  · rename_i hq
    exact absurd hq hs
  · rw [Act.outcome_bind, Act.outcome_change]
    rfl

section Calls

variable [Add T] [Sub T] [OfNat T 0] [LT T] [LE T] [DecidableLT T] [DecidableLE T]

/-- The worker of a job has come so far, and no caller has moved. -/
structure WorksTo (e : Engine ω T) (plan : PoolPlan T) (w w' : World ω T) (k : Nat) (j : Job T)
    (p : WorkerPoint T) : Prop where
  path : Path e plan w w'
  job : w'.jobs[k]? = some j
  worker : w'.workers[k]? = some p
  calls : w'.calls = w.calls

variable {plan : PoolPlan T} {w' : World ω T} {j j' : Job T} {p p' : WorkerPoint T}

theorem WorksTo.step {s : Session (RecordedPool ω T)} (h : WorksTo e plan w w' k j p)
    (hp : p.isBusy = true)
    (hs : (Pool.advance e.recorded plan k j p).outcome w'.session = (.ok p', s))
    (hj : s.holdings.jobs[k]? = some j') :
    ∃ w'', WorksTo e plan w w'' k j' p' ∧ w''.session = s := by
  have hk := (List.getElem?_eq_some_iff.mp h.worker).1
  let next : World ω T := { w' with session := s }
  have hstep : Step e plan w' ((next.moveWorker k p').noteMaker k p') :=
    .work w' k j p p' s h.job h.worker hp hs
  have hsame : ((next.moveWorker k p').noteMaker k p').session = s ∧
      ((next.moveWorker k p').noteMaker k p').workers = w'.workers.set k p' ∧
      ((next.moveWorker k p').noteMaker k p').calls = w'.calls := by
    cases p' <;> exact ⟨rfl, rfl, rfl⟩
  obtain ⟨hsession, hworkers, hcalls⟩ := hsame
  refine ⟨_, ⟨h.path.tail hstep, ?_, ?_, hcalls.trans h.calls⟩, hsession⟩
  · unfold jobs holdings
    rw [hsession, hj]
  · rw [hworkers, List.getElem?_set_self hk]

/-- The attempts to connect, from the first to the last. -/
theorem WorksTo.connect {budget : Option (Deadline T)} {left : Nat}
    (h : WorksTo e plan w w' k j (.connecting budget left)) :
    ∃ w'' result, (Pool.connectFrom e.recorded plan j.deadline budget left).outcome w'.session =
        (result, w''.session) ∧
      ((∃ c, result = .ok c ∧ WorksTo e plan w w'' k j (.connected c)) ∨
        ∃ r, result = .error r ∧ WorksTo e plan w w'' k j (.failed r)) := by
  induction left generalizing w' with
  | zero =>
    obtain ⟨result, s, hr, htry⟩ := Pool.tryConnect_spec e plan plan.attempts w'.session
    have hj : s.holdings.jobs[k]? = some j := by
      rcases htry with ⟨c, -, hs⟩ | ⟨-, hs⟩ <;> (rw [hs]; exact h.job)
    simp only [Pool.connectFrom, Act.outcome_bind, hr]
    rcases htry with ⟨c, rfl, -⟩ | ⟨⟨r, rfl | rfl⟩, -⟩
    · have hadv : (Pool.advance e.recorded plan k j (.connecting budget 0)).outcome w'.session =
          (.ok (.connected c), s) := by
        simp only [Pool.advance, Act.outcome_bind, Act.outcome_caught, hr]
        rfl
      obtain ⟨w'', hw, rfl⟩ := h.step rfl hadv hj
      exact ⟨w'', _, rfl, Or.inl ⟨c, rfl, hw⟩⟩
    · have hadv : (Pool.advance e.recorded plan k j (.connecting budget 0)).outcome w'.session =
          (.ok (.failed (Pool.connectFailure plan r)), s) := by
        simp only [Pool.advance, Act.outcome_bind, Act.outcome_caught, hr]
        rfl
      obtain ⟨w'', hw, rfl⟩ := h.step rfl hadv hj
      exact ⟨w'', _, rfl, Or.inr ⟨_, rfl, hw⟩⟩
    · have hadv : (Pool.advance e.recorded plan k j (.connecting budget 0)).outcome w'.session =
          (.ok (.failed r), s) := by
        simp only [Pool.advance, Act.outcome_bind, Act.outcome_caught, hr]
        rfl
      obtain ⟨w'', hw, rfl⟩ := h.step rfl hadv hj
      exact ⟨w'', _, rfl, Or.inr ⟨_, rfl, hw⟩⟩
  | succ left ih =>
    obtain ⟨result, s, hr, htry⟩ :=
      Pool.tryConnect_spec e plan (plan.attempts - (left + 1)) w'.session
    have hj : s.holdings.jobs[k]? = some j := by
      rcases htry with ⟨c, -, hs⟩ | ⟨-, hs⟩ <;> (rw [hs]; exact h.job)
    simp only [Pool.connectFrom, Act.outcome_bind, hr]
    rcases htry with ⟨c, rfl, -⟩ | ⟨⟨r, rfl | rfl⟩, -⟩
    · have hadv : (Pool.advance e.recorded plan k j (.connecting budget (left + 1))).outcome
          w'.session = (.ok (.connected c), s) := by
        simp only [Pool.advance, Act.outcome_bind, Act.outcome_caught, hr]
        rfl
      obtain ⟨w'', hw, rfl⟩ := h.step rfl hadv hj
      exact ⟨w'', _, rfl, Or.inl ⟨c, rfl, hw⟩⟩
    · obtain ⟨late, hlate⟩ := Pool.outOfTime_spec e plan j.deadline budget s
      cases late with
      | true =>
        have hadv : (Pool.advance e.recorded plan k j (.connecting budget (left + 1))).outcome
            w'.session = (.ok (.failed (Pool.connectFailure plan r)), s) := by
          simp only [Pool.advance, Act.outcome_bind, Act.outcome_caught, hr, hlate]
          rfl
        obtain ⟨w'', hw, rfl⟩ := h.step rfl hadv hj
        refine ⟨w'', .error (Pool.connectFailure plan r), ?_, Or.inr ⟨_, rfl, hw⟩⟩
        simp only [Act.outcome_bind, hlate, if_true]
        rfl
      | false =>
        obtain ⟨s', hpause, hs'⟩ := Pool.pauseBetween_spec e plan s
        have hadv : (Pool.advance e.recorded plan k j (.connecting budget (left + 1))).outcome
            w'.session = (.ok (.connecting budget left), s') := by
          simp only [Pool.advance, Act.outcome_bind, Act.outcome_caught, hr, hlate,
            Bool.false_eq_true, if_false, hpause]
          rfl
        obtain ⟨w₁, hw, rfl⟩ := h.step rfl hadv (hs' ▸ hj)
        obtain ⟨w'', result, hrest, hend⟩ := ih hw
        refine ⟨w'', result, ?_, hend⟩
        simp only [Act.outcome_bind, hlate, Bool.false_eq_true, if_false, hpause, hrest]
    · have hadv : (Pool.advance e.recorded plan k j (.connecting budget (left + 1))).outcome
          w'.session = (.ok (.failed r), s) := by
        simp only [Pool.advance, Act.outcome_bind, Act.outcome_caught, hr]
        rfl
      obtain ⟨w'', hw, rfl⟩ := h.step rfl hadv hj
      exact ⟨w'', _, rfl, Or.inr ⟨_, rfl, hw⟩⟩

/-- A connection and the statement on it. -/
theorem WorksTo.openStatement
    (h : WorksTo e plan w w' k j .taken) :
    ∃ w'' result, (Pool.openStatement e.recorded plan j.sql j.deadline).outcome
          ((Pool.engineMove e.recorded.begin).outcome w'.session).2 = (result, w''.session) ∧
      ((∃ i, result = .ok i ∧ WorksTo e plan w w'' k j (.opened i)) ∨
        ∃ r, result = .error r ∧ WorksTo e plan w w'' k j (.failed r)) := by
  obtain ⟨budget, s, hadv, hacquire, hj⟩ : ∃ budget s,
      (Pool.advance e.recorded plan k j .taken).outcome w'.session =
        (.ok (.connecting budget (plan.attempts - 1)), s) ∧
      (Pool.acquire e.recorded plan j.deadline).outcome
          ((Pool.engineMove e.recorded.begin).outcome w'.session).2 =
        (Pool.connectFrom e.recorded plan j.deadline budget (plan.attempts - 1)).outcome s ∧
      s.holdings.jobs[k]? = some j := by
    unfold Pool.advance Pool.acquire
    cases plan.budget with
    | none => exact ⟨none, _, rfl, rfl, h.job⟩
    | some b => exact ⟨some _, _, rfl, rfl, h.job⟩
  obtain ⟨w₁, h₁, rfl⟩ := h.step rfl hadv hj
  obtain ⟨w₂, result, hr, hend⟩ := h₁.connect
  simp only [Pool.openStatement, Act.outcome_bind, hacquire, hr]
  rcases hend with ⟨c, rfl, h₂⟩ | ⟨r, rfl, h₂⟩
  · simp only [Pool.engineStep, Act.outcome_step, Engine.recorded]
    cases hrun : (e.run c j.sql w₂.session.outside.engine.1).1 with
    | ok result =>
      obtain ⟨s, hadv, hres, hj'⟩ : ∃ s,
          (Pool.advance e.recorded plan k j (.connected c)).outcome w₂.session =
            (.ok (.opened w₂.session.outside.cursors.length), s) ∧
          (Act.step fun p : RecordedPool ω T => (p.cursors.length,
              { p with cursors := p.cursors ++ [⟨c, result, j.deadline, false⟩] })).outcome
            ((Pool.engineStep (e.recorded.run c j.sql)).outcome w₂.session).2 =
              (.ok w₂.session.outside.cursors.length, s) ∧
          s.holdings.jobs[k]? = some j := by
        simp only [Pool.advance, Pool.engineStep, Act.outcome_bind, Act.outcome_step,
          Engine.recorded, hrun]
        exact ⟨_, rfl, rfl, h₂.job⟩
      obtain ⟨w₃, h₃, rfl⟩ := h₂.step rfl hadv hj'
      exact ⟨w₃, _, hres, Or.inl ⟨_, rfl, h₃⟩⟩
    | error r =>
      obtain ⟨s, hadv, hs, hj'⟩ : ∃ s,
          (Pool.advance e.recorded plan k j (.connected c)).outcome w₂.session =
            (.ok (.failing c r), s) ∧
          ((Pool.engineStep (e.recorded.run c j.sql)).outcome w₂.session).2 = s ∧
          s.holdings.jobs[k]? = some j := by
        simp only [Pool.advance, Pool.engineStep, Act.outcome_bind, Act.outcome_step,
          Engine.recorded, hrun]
        exact ⟨_, rfl, rfl, h₂.job⟩
      obtain ⟨w₃, h₃, rfl⟩ := h₂.step rfl hadv hj'
      obtain ⟨r', s', hadv', hres, hj''⟩ : ∃ r' s',
          (Pool.advance e.recorded plan k j (.failing c r)).outcome w₃.session =
            (.ok (.failed r'), s') ∧
          (do Pool.engineCall (e.recorded.closeConnection c); Act.raise r :
              Act (RecordedPool ω T) Nat).outcome w₃.session = (.error r', s') ∧
          s'.holdings.jobs[k]? = some j := by
        simp only [Pool.advance, Act.outcome_bind, Act.outcome_caught, Pool.outcome_engineCall]
        rcases (e.recorded.closeConnection c w₃.session.outside.engine).1 with r' | ⟨⟩
        · exact ⟨r', _, rfl, rfl, h₃.job⟩
        · exact ⟨r, _, rfl, rfl, h₃.job⟩
      obtain ⟨w₄, h₄, rfl⟩ := h₃.step rfl hadv' hj''
      refine ⟨w₄, .error r', ?_, Or.inr ⟨r', rfl, h₄⟩⟩
      rw [← hres, ← hs]
      rfl
  · exact ⟨w₂, _, rfl, Or.inr ⟨r, rfl, h₂⟩⟩

/-- The whole work on a job that was taken. -/
theorem WorksTo.work {s : Session (RecordedPool ω T)} {j₀ : Job T}
    (h : WorksTo e plan w w' k { j₀ with stage := .running } .taken)
    (hs : w'.session = ((Pool.setStage k .running).outcome s).2)
    (hj : s.holdings.jobs[k]? = some j₀) :
    ∃ w'' j', WorksTo e plan w w'' k j' .finished ∧ j'.stage.isEnd = true ∧
      (Pool.work e.recorded plan k).outcome s = (.ok (), w''.session) := by
  obtain ⟨w₁, result, hopen, hend⟩ := h.openStatement
  have hj' : s.outside.jobs[k]? = some j₀ := hj
  -- the stage at which the job ends, and the callback if one was left with it
  have hfinish : ∀ {w₁ : World ω T} {stage : JobStage} {p : WorkerPoint T}, stage.isEnd = true →
      p.isBusy = true → WorksTo e plan w w₁ k { j₀ with stage := .running } p →
      (Pool.advance e.recorded plan k { j₀ with stage := .running } p).outcome w₁.session =
        (.ok (.afterEnd j₀.abandoned), ((Pool.setStage k stage).outcome w₁.session).2) →
      ∃ w'' j', WorksTo e plan w w'' k j' .finished ∧ j'.stage.isEnd = true ∧
        (if j₀.abandoned then Pool.releaseLate e.recorded k else pure ()).outcome
          ((Pool.setStage k stage).outcome w₁.session).2 = (.ok (), w''.session) := by
    intro w₁ stage p hstage hp h₁ hadv
    have hjob : ((Pool.setStage k stage).outcome w₁.session).2.holdings.jobs[k]? =
        some { j₀ with stage } := by
      rw [Pool.holdings_setStage]
      unfold Holdings.setStage
      rw [List.getElem?_modify_eq]
      have hk : w₁.session.holdings.jobs[k]? = some { j₀ with stage := .running } := h₁.job
      rw [hk]
      rfl
    obtain ⟨w₂, h₂, hw₂⟩ := h₁.step hp hadv hjob
    rw [← hw₂]
    cases ha : j₀.abandoned with
    | false =>
      rw [ha] at h₂
      exact ⟨w₂, _, h₂, hstage, rfl⟩
    | true =>
      rw [ha] at h₂
      have hstep : Step e plan w₂ ((w₂.release e k).moveWorker k .finished) :=
        .workerReleases w₂ k h₂.worker
      obtain ⟨hworkers, hcalls, -⟩ := release_workers w₂ e k
      have hjobs : (w₂.release e k).jobs = w₂.jobs := by
        unfold jobs
        rw [holdings_release]
        unfold Holdings.releaseLate
        split
        · exact Holdings.jobs_closeCursor _ _
        · rfl
      refine ⟨_, { j₀ with stage }, ⟨h₂.path.tail hstep, ?_, ?_, hcalls.trans h₂.calls⟩, hstage, ?_⟩
      · exact (congrArg (·[k]?) hjobs).trans (ha ▸ h₂.job)
      · have hk : k < w₂.workers.length := (List.getElem?_eq_some_iff.mp h₂.worker).1
        unfold moveWorker
        rw [hworkers, List.getElem?_set_self hk]
      · exact Prod.ext (Pool.holdings_releaseLate e k w₂.session).2 (release_session w₂ e k).symm
  have hopen' : (Pool.openStatement e.recorded plan j₀.sql j₀.deadline).outcome
      ((Pool.engineMove e.recorded.begin).outcome ((Pool.setStage k .running).outcome s).2).2 =
        (result, w₁.session) := by
    rw [← hs]
    exact hopen
  have hset : (Pool.setStage k .running).outcome s =
      (.ok (), ((Pool.setStage k .running).outcome s).2) := rfl
  have hbegin : ∀ s : Session (RecordedPool ω T), (Pool.engineMove e.recorded.begin).outcome s =
      (.ok (), ((Pool.engineMove e.recorded.begin).outcome s).2) := fun _ => rfl
  unfold Pool.work
  rw [Act.outcome_bind, Act.outcome_outside]
  dsimp only
  rw [hj']
  dsimp only
  rw [Act.outcome_bind, hset]
  dsimp only
  rw [Act.outcome_bind, hbegin]
  dsimp only
  rw [Act.outcome_bind, Act.outcome_caught, hopen']
  dsimp only
  rcases hend with ⟨i, rfl, h₁⟩ | ⟨r, rfl, h₁⟩
  · obtain ⟨w'', j', hw, hstage, hres⟩ := hfinish rfl rfl h₁ rfl
    refine ⟨w'', j', hw, hstage, ?_⟩
    rw [← hres]
    rfl
  · obtain ⟨w'', j', hw, hstage, hres⟩ := hfinish rfl rfl h₁ rfl
    refine ⟨w'', j', hw, hstage, ?_⟩
    rw [← hres]
    rfl

/-- A caller whose wait is over gives its job up. -/
theorem timedOut_path {stage : JobStage} (hc : w.calls[k]? = some .waiting)
    (hs : w.stage? k = some stage) (plan : PoolPlan T) (deadline : Deadline T) :
    ∃ w' r, Path e plan w w' ∧
      (Pool.timedOut e.recorded k deadline : Act (RecordedPool ω T) Nat).outcome w.session =
        (.error r, w'.session) := by
  let w₁ := w.moveCall k .timedOut
  have h₁ : Step e plan w w₁ := .timeOut w k hc
  have hc₁ : w₁.calls[k]? = some .timedOut := call_moveCall hc
  unfold Pool.timedOut
  rw [Act.outcome_bind]
  by_cases hqueued : stage = .queued
  · subst hqueued
    have h₂ : Step e plan w₁ ((w₁.after (Pool.setStage k .cancelled)).moveCall k .over) :=
      .cancel w₁ k hc₁ hs
    rw [abandon_of_queued hs]
    exact ⟨_, _, .tail (.single h₁) h₂, rfl⟩
  · let w₂ := w₁.moveCall k .uncancelled
    have h₂ : Step e plan w₁ w₂ :=
      .cancelFails w₁ k hc₁ fun he => hqueued (Option.some.inj (hs.symm.trans he))
    have hc₂ : w₂.calls[k]? = some .uncancelled := call_moveCall hc₁
    have hrelease := (Pool.holdings_releaseLate e k (w.after (leaveCallback k)).session).2
    rw [abandon_of_not_queued fun he => hqueued (Option.some.inj (hs.symm.trans he))]
    have hstage : (w.after (leaveCallback k)).stage? k = some stage := stage_leaveCallback hs
    by_cases hrunning : stage = .running
    · -- the callback finds a job that is not at its end
      subst hrunning
      have h₃ : Step e plan w₂ ((w₂.after (leaveCallback k)).moveCall k .over) :=
        .register w₂ k hc₂ hs
      rw [releaseLate_of_running hstage]
      exact ⟨_, _, .tail (.tail (.single h₁) h₂) h₃, rfl⟩
    · let w₃ := (w₂.after (leaveCallback k)).moveCall k .releasing
      have h₃ : Step e plan w₂ w₃ :=
        .registerAtEnd w₂ k hc₂ fun he => hrunning (Option.some.inj (hs.symm.trans he))
      have hc₃ : w₃.calls[k]? = some .releasing := call_moveCall hc₂
      have h₄ : Step e plan w₃ ((w₃.release e k).moveCall k .over) := .callerReleases w₃ k hc₃
      rw [show (Pool.releaseLate e.recorded k).outcome (w.after (leaveCallback k)).session =
        (.ok (), (w₃.release e k).session) from Prod.ext hrelease (release_session w₃ e k).symm]
      exact ⟨_, _, .tail (.tail (.tail (.single h₁) h₂) h₃) h₄, rfl⟩

/-- What a caller makes of the job when its wait is over. -/
def afterWait (e : Engine ω T) (k : Nat) (deadline : Deadline T) : Act (RecordedPool ω T) Nat := do
  match ← Pool.stageOf? k with
  | some (.opened cursor) => return cursor
  | some (.failed (.fault f)) =>
    if f.kind = .timeout then Pool.timedOut e.recorded k deadline else Act.raise (.fault f)
  | some (.failed r) => Act.raise r
  | _ => Pool.timedOut e.recorded k deadline

/-- The call gets a cursor to return or, in a ping, to read. -/
def Gives (w' : World ω T) (k : Nat) (reads : Bool) (result : Except Raised Nat) : Prop :=
  ∀ i, result = .ok i → w'.calls[k]? = some (if reads then .reading i else .returned i)

theorem afterWait_path {stage : JobStage} (hc : w.calls[k]? = some .waiting)
    (hs : w.stage? k = some stage) (plan : PoolPlan T) (deadline : Deadline T) (reads : Bool) :
    ∃ w' result, Path e plan w w' ∧
      (afterWait e k deadline).outcome w.session = (result, w'.session) ∧ w'.Gives k reads result := by
  have hstage : (Pool.stageOf? k).outcome w.session = (.ok (some stage), w.session) := by
    rw [Pool.outcome_stageOf]
    exact congrArg (fun o => (Except.ok o, w.session)) hs
  obtain ⟨w', r, hpath, hout⟩ := timedOut_path (e := e) hc hs plan deadline
  unfold afterWait
  rw [Act.outcome_bind, hstage]
  cases stage with
  | opened i =>
    cases reads with
    | true =>
      refine ⟨_, .ok i, .single (.takeForPing w k i hc hs), rfl, fun m hm => ?_⟩
      rw [← Except.ok.inj hm]
      exact call_moveCall hc
    | false =>
      refine ⟨_, .ok i, .single (.take w k i hc hs), rfl, fun m hm => ?_⟩
      rw [← Except.ok.inj hm]
      exact call_moveCall hc
  | failed r' =>
    have hraise : Step e plan w (w.moveCall k .over) := .raise w k r' hc hs
    cases r' with
    | failure f => exact ⟨_, _, .single hraise, rfl, fun m hm => by simp at hm⟩
    | fault f =>
      by_cases hf : f.kind = .timeout
      · simp only [hf, if_true]
        exact ⟨w', _, hpath, hout, fun m hm => by simp at hm⟩
      · simp only [hf, if_false]
        exact ⟨_, _, .single hraise, rfl, fun m hm => by simp at hm⟩
  | queued => exact ⟨w', _, hpath, hout, fun m hm => by simp at hm⟩
  | running => exact ⟨w', _, hpath, hout, fun m hm => by simp at hm⟩
  | cancelled => exact ⟨w', _, hpath, hout, fun m hm => by simp at hm⟩

/-- Opening a statement with a deadline, whether the worker is at once or late. -/
theorem openBounded_path (h : w.Inv) (plan : PoolPlan T) (sql : String) (deadline : Deadline T) (reads : Bool) :
    ∃ w' result, Path e plan w w' ∧
      (Pool.openBounded e.recorded plan sql deadline).outcome w.session = (result, w'.session) ∧
      w'.Gives w.jobs.length reads result := by
  unfold Pool.openBounded
  rw [Act.outcome_bind]
  rcases Pool.holdings_submit sql deadline w.session with ⟨r, hr⟩ | ⟨s, hs, hholdings⟩
  · rw [hr]
    exact ⟨w, .error r, .refl, rfl, fun m hm => by simp at hm⟩
  · rw [hs]
    dsimp only
    rw [Act.outcome_bind, Act.outcome_outside]
    dsimp only
    let k := w.jobs.length
    let w₁ : World ω T := { w with
      session := s
      workers := w.workers ++ [.idle]
      calls := w.calls ++ [.waiting] }
    have h₁ : Step e plan w w₁ := .submit w sql deadline k s hs
    have hjob : w₁.jobs[k]? = some ⟨sql, deadline, .queued, false⟩ := by
      have hjobs : w₁.jobs = w.jobs ++ [⟨sql, deadline, .queued, false⟩] :=
        congrArg Holdings.jobs hholdings
      rw [hjobs, List.getElem?_concat_length]
    have hcall : w₁.calls[k]? = some .waiting := by
      show (w.calls ++ [.waiting])[w.jobs.length]? = _
      rw [← h.calls_length, List.getElem?_concat_length]
    have hworker : w₁.workers[k]? = some .idle := by
      show (w.workers ++ [.idle])[w.jobs.length]? = _
      rw [← h.workers_length, List.getElem?_concat_length]
    have hqueued : w₁.stage? k = some .queued := congrArg (·.map Job.stage) hjob
    let w₂ := (w₁.after (Pool.setStage k .running)).moveWorker k .taken
    have h₂ : Step e plan w₁ w₂ := .start w₁ k hqueued
    have hjob₂ : w₂.jobs[k]? = some ⟨sql, deadline, .running, false⟩ := by
      have hjobs : w₂.jobs = w₁.jobs.modify k fun j => { j with stage := .running } := rfl
      rw [hjobs, List.getElem?_modify_eq, hjob]
      rfl
    cases e.recorded.turn s.outside.engine with
    | atOnce =>
      have htaken : w₂.workers[k]? = some .taken :=
        List.getElem?_set_self (List.getElem?_eq_some_iff.mp hworker).1
      have hworks : WorksTo e plan w₂ w₂ k ⟨sql, deadline, .running, false⟩ .taken :=
        ⟨.refl, hjob₂, htaken, rfl⟩
      obtain ⟨w₃, j, hdone, hend, hwork⟩ := hworks.work (s := w₁.session) rfl hjob
      have hcall₃ : w₃.calls[k]? = some .waiting := by
        rw [hdone.calls]
        exact hcall
      obtain ⟨w', result, hpath, hout, hgives⟩ := afterWait_path (e := e) hcall₃
        (congrArg (·.map Job.stage) hdone.job) plan deadline reads
      refine ⟨w', result, (hdone.path.trans hpath).head h₂ |>.head h₁, ?_, hgives⟩
      rw [← hout]
      show (do Pool.work e.recorded plan k; afterWait e k deadline : Act (RecordedPool ω T) Nat).outcome
        w₁.session = _
      rw [Act.outcome_bind, hwork]
    | later started =>
      cases started with
      | true =>
        obtain ⟨w', result, hpath, hout, hgives⟩ := afterWait_path (e := e)
          (w := w₂.after (Pool.engineMove
            (e.recorded.wait (deadline.remaining (e.recorded.now s.outside.engine)))))
          hcall (congrArg (·.map Job.stage) hjob₂) plan deadline reads
        refine ⟨w', result, (hpath.head (.ambient w₂ _ rfl)).head h₂ |>.head h₁, ?_, hgives⟩
        rw [← hout]
        rfl
      | false =>
        obtain ⟨w', result, hpath, hout, hgives⟩ := afterWait_path (e := e)
          (w := w₁.after (Pool.engineMove
            (e.recorded.wait (deadline.remaining (e.recorded.now s.outside.engine)))))
          hcall hqueued plan deadline reads
        refine ⟨w', result, (hpath.head (.ambient w₁ _ rfl)).head h₁, ?_, hgives⟩
        rw [← hout]
        rfl

/-- Opening a statement through the circuit breaker. -/
theorem openGuarded_path (h : w.Inv) (plan : PoolPlan T) (sql : String) (deadline : Deadline T)
    (reads : Bool) :
    ∃ w' result, Path e plan w w' ∧
      (Pool.openGuarded e.recorded plan sql deadline).outcome w.session = (result, w'.session) ∧
      w'.Gives w.jobs.length reads result := by
  -- the call through the circuit, and then what is made of its error
  obtain ⟨w₁, result, hpath, hout, hgives⟩ : ∃ w₁ result, Path e plan w w₁ ∧
      ((Pool.circuitSlot e.recorded).call (Pool.openBounded e.recorded plan sql deadline)).outcome
        w.session = (result, w₁.session) ∧ w₁.Gives w.jobs.length reads result := by
    rcases Pool.circuit_call_spec (e := e) (Pool.openBounded e.recorded plan sql deadline) w.session with
      ⟨r, s, hout, hs⟩ | ⟨s, hs, hholdings, hok⟩
    · exact ⟨{ w with session := s }, .error r, .single (.ambient w s hs), hout,
        fun m hm => by simp at hm⟩
    · let w₀ : World ω T := { w with session := s }
      have h₀ : Step e plan w w₀ := .ambient w s hs
      obtain ⟨w₁, result, hpath, hout, hgives⟩ :=
        openBounded_path (e := e) (h.step h₀) plan sql deadline reads
      have hjobs : w₀.jobs.length = w.jobs.length := congrArg (·.jobs.length) hs
      rw [hout] at hholdings hok
      refine ⟨{ w₁ with session := _ }, _, (hpath.head h₀).tail (.ambient w₁ _ hholdings), rfl, ?_⟩
      intro m hm
      exact hjobs ▸ hgives m (hok m hm)
  have hkeeps : ∀ f : Fault, ∃ r s, (if f.kind = .openCircuit then
        Act.fail .unavailable "Remote engine unavailable: circuit breaker is open" (some .openCircuit)
      else do
        Act.log .error poolLogger s!"Statement execution failed on {plan.name}: {f.message}"
        Act.fail .remote ("Failed to execute query: " ++ f.message) (some f.kind) :
        Act (RecordedPool ω T) Nat).outcome w₁.session = (.error r, s) ∧ s.holdings = w₁.holdings := by
    intro f
    split
    · exact ⟨_, _, rfl, rfl⟩
    · exact ⟨_, _, rfl, rfl⟩
  unfold Pool.openGuarded
  rw [Act.outcome_onFault, hout]
  rcases result with (f | f) | i
  · exact ⟨w₁, _, hpath, rfl, hgives⟩
  · obtain ⟨r, s, hr, hs⟩ := hkeeps f
    exact ⟨{ w₁ with session := s }, .error r, hpath.tail (.ambient w₁ s hs), hr,
      fun m hm => by simp at hm⟩
  · exact ⟨w₁, _, hpath, rfl, hgives⟩

/-- A statement that is executed with nothing in between: the cursor that comes out is one that the call
returned. -/
theorem execute_path (h : w.Inv) (plan : PoolPlan T) (sql label : String) (timeout : T)
    (reads : Bool) :
    ∃ w' result, Path e plan w w' ∧
      (Pool.execute e.recorded plan sql label timeout).outcome w.session = (result, w'.session) ∧
      ∀ cursor, result = .ok cursor → ∃ i, cursor = Pool.cursorOf e.recorded plan i ∧
        w'.calls[w.jobs.length]? = some (if reads then .reading i else .returned i) := by
  obtain ⟨w', result, hpath, hout, hgives⟩ := openGuarded_path (e := e) h plan sql
    (Deadline.after label timeout (e.recorded.now w.session.outside.engine)) reads
  have hdeadline : (Pool.deadlineAfter e.recorded label timeout).outcome w.session =
      (.ok (Deadline.after label timeout (e.recorded.now w.session.outside.engine)), w.session) := rfl
  unfold Pool.execute
  rw [Act.outcome_bind, hdeadline]
  dsimp only
  rw [Act.outcome_bind, hout]
  rcases result with r | i
  · exact ⟨w', _, hpath, rfl, fun cursor hc => by simp at hc⟩
  · refine ⟨w', _, hpath, rfl, fun cursor hc => ⟨i, ?_, hgives i rfl⟩⟩
    exact (Except.ok.inj hc).symm

/-- A ping with nothing in between: its cursor is closed at the end. -/
theorem ping_path (h : w.Inv) (plan : PoolPlan T) (label : String) (timeout : T) :
    ∃ w' result, Path e plan w w' ∧
      (Pool.ping e.recorded plan label timeout).outcome w.session = (result, w'.session) := by
  obtain ⟨w₁, result, hpath, hout, hgives⟩ :=
    execute_path (e := e) h plan Pool.pingStatement label timeout true
  unfold Pool.ping
  rw [Act.outcome_bind, hout]
  rcases result with r | cursor
  · exact ⟨w₁, .error r, hpath, rfl⟩
  · obtain ⟨i, rfl, hcall⟩ := hgives cursor rfl
    let body : Act (RecordedPool ω T) Unit :=
      ((Pool.rowsOf e.recorded plan.batchSize i).fold (fun () _ => pure (.yield ())) ()).onFault
        fun f => do
          Act.log .error poolLogger s!"Ping fetch failed on {plan.name}: {f.message}"
          Act.fail .remote ("Ping failed while fetching: " ++ f.message) (some f.kind)
    have hbody : body.Follows Pool.SameHoldings := by
      refine ((Pool.keeps_rowsOf e plan.batchSize i).fold (fun _ _ => Act.follows_pure _) ()).onFault
        fun f => ?_
      exact (Act.follows_log _ _ _).bind fun _ => Act.follows_raise _
    let w₂ := w₁.after body
    have h₂ : Step e plan w₁ w₂ := .ambient w₁ _ (hbody w₁.session)
    have h₃ : Step e plan w₂ ((w₂.after (Pool.closeCursor e.recorded i)).moveCall w.jobs.length .over) :=
      .closePing w₂ w.jobs.length i hcall
    show ∃ w' result, Path e plan w w' ∧
      (body.andFinally (Pool.closeCursor e.recorded i)).outcome w₁.session = (result, w'.session)
    rw [Act.outcome_andFinally]
    rcases hclose : (Pool.closeCursor e.recorded i).outcome (body.outcome w₁.session).2 with
      ⟨r | ⟨⟩, s⟩
    · refine ⟨_, .error r, (hpath.tail h₂).tail h₃, ?_⟩
      exact congrArg (Except.error r, ·) (congrArg Prod.snd hclose).symm
    · refine ⟨_, (body.outcome w₁.session).1, (hpath.tail h₂).tail h₃, ?_⟩
      exact congrArg ((body.outcome w₁.session).1, ·) (congrArg Prod.snd hclose).symm

end Calls

end World

end QueryGate
