import Mathlib.Algebra.Order.Group.Defs
import QueryGate.Proofs.Connection.Ledger
import QueryGate.Proofs.Connection.Onward
/-! How a statement that was handed to a worker ends for the one who waits for it. Either it was opened, or it
failed with what the engine raised, or it is not at its end and its deadline has passed. -/

namespace QueryGate

section Gives

variable {σ α β : Type}

/-- From everywhere, the call moves what is outside along the relation, and its result is as wanted. -/
def Act.Gives (r : σ → σ → Prop) (P : Except Raised α → Prop) (a : Act σ α) : Prop :=
  ∀ s, r s.outside (a.outcome s).2.outside ∧ P (a.outcome s).1

namespace Act

variable {r : σ → σ → Prop} {P : Except Raised α → Prop} {Q : Except Raised β → Prop}

variable [IsPreorder σ r]

theorem gives_pure {x : α} (h : P (.ok x)) : (pure x : Act σ α).Gives r P :=
  fun s => ⟨refl s.outside, h⟩

theorem gives_raise {e : Raised} (h : P (.error e)) : (raise e : Act σ α).Gives r P :=
  fun s => ⟨refl s.outside, h⟩

theorem Gives.bind {a : Act σ α} {f : α → Act σ β} (h : a.Gives r P)
    (hf : ∀ x, P (.ok x) → (f x).Gives r Q) (he : ∀ e, P (.error e) → Q (.error e)) :
    (a >>= f).Gives r Q := by
  intro s
  have hs := h s
  rw [outcome_bind]
  generalize a.outcome s = o at hs
  obtain ⟨hmoves, hresult⟩ := hs
  rcases o with ⟨e | x, s'⟩
  · exact ⟨hmoves, he e hresult⟩
  · obtain ⟨hnext, hlast⟩ := hf x hresult s'
    exact ⟨IsTrans.trans _ _ _ hmoves hnext, hlast⟩

end Act

end Gives

variable {ω T : Type}

/-- What may be raised while a statement is opened: what the engine raises, or that it gives no connection. -/
inductive Engine.Raises (e : Engine ω T) (plan : PoolPlan T) : Raised → Prop
  | connect {r : Raised} (w : ω) (h : (e.connect w).1 = .error r) : Raises e plan r
  | unconnected {r : Raised} (w : ω) (h : (e.connect w).1 = .error r) : Raises e plan (Pool.connectFailure plan r)
  | run {r : Raised} (connection : Nat) (sql : String) (w : ω) (h : (e.run connection sql w).1 = .error r) :
    Raises e plan r
  | close {r : Raised} (connection : Nat) (w : ω) (h : (e.closeConnection connection w).1 = .error r) :
    Raises e plan r

/-- The failure of a statement that is not open by its deadline. -/
def Deadline.exceeded (d : Deadline T) : Failure :=
  ⟨.timeout, s!"Statement exceeded {d.label}s deadline", none⟩

namespace Pool

variable {e : Engine ω T}

/-- The jobs are as they were. -/
def SameJobs (p q : Pool ω T) : Prop :=
  q.jobs = p.jobs

instance : IsPreorder (Pool ω T) SameJobs where
  refl _ := rfl
  trans _ _ _ h h' := h'.trans h

def OnlyRaises (e : Engine ω T) (plan : PoolPlan T) {α : Type} (o : Except Raised α) : Prop :=
  ∀ r, o = .error r → e.Raises plan r

section Opening

theorem engineStep_gives {α : Type} (f : ω → α × ω) {P : Except Raised α → Prop}
    (h : ∀ w, P (.ok (f w).1)) : (engineStep f : Act (Pool ω T) α).Gives SameJobs P :=
  fun s => ⟨rfl, h s.outside.engine⟩

/-- An attempt gives a connection, or what the engine raised, as a value if it is of the database. -/
theorem tryConnect_gives (plan : PoolPlan T) (attempt : Nat) :
    (tryConnect e plan attempt).Gives SameJobs fun o =>
      (∃ connection, o = .ok (.ok connection)) ∨
        ∃ r w, (e.connect w).1 = .error r ∧ (o = .ok (.error r) ∨ o = .error r) := by
  unfold tryConnect
  refine Act.Gives.bind (P := fun o => ∃ w, o = .ok (e.connect w).1)
    (engineStep_gives e.connect fun w => ⟨w, rfl⟩) ?_ fun _ h => (nomatch h)
  rintro result ⟨w, hw⟩
  obtain rfl := Except.ok.inj hw
  cases hresult : (e.connect w).1 with
  | ok connection => exact Act.gives_pure (Or.inl ⟨connection, rfl⟩)
  | error r =>
    dsimp only
    split
    · exact fun s => ⟨rfl, Or.inr ⟨r, w, hresult, Or.inl rfl⟩⟩
    · exact Act.gives_raise (Or.inr ⟨r, w, hresult, Or.inr rfl⟩)

theorem engineCall_gives {α : Type} (f : ω → Except Raised α × ω) :
    (engineCall f : Act (Pool ω T) α).Gives SameJobs fun o => ∃ w, (f w).1 = o := by
  intro s
  rw [outcome_engineCall]
  exact ⟨rfl, s.outside.engine, rfl⟩

variable [OfNat T 0] [LT T] [DecidableLT T]

theorem pauseBetween_gives (plan : PoolPlan T) :
    (pauseBetween e plan).Gives SameJobs fun o => o = .ok () := by
  unfold pauseBetween
  split
  · exact fun _ => ⟨rfl, rfl⟩
  · exact Act.gives_pure rfl

variable [Sub T] [LE T] [DecidableLE T]

theorem outOfTime_gives (plan : PoolPlan T) (deadline : Deadline T) (budget : Option (Deadline T)) :
    (outOfTime e plan deadline budget).Gives SameJobs fun o => ∃ late, o = .ok late := by
  have hone : ∀ d, (noTimeAfter e plan.pause d).Gives SameJobs fun o => ∃ late, o = .ok late :=
    fun _ _ => ⟨rfl, _, rfl⟩
  unfold outOfTime
  cases budget with
  | none => exact hone deadline
  | some b =>
    refine (hone b).bind (fun late _ => ?_) fun _ h => (nomatch h)
    split
    · exact Act.gives_pure ⟨true, rfl⟩
    · exact hone deadline

theorem connectFrom_gives (plan : PoolPlan T) (deadline : Deadline T) (budget : Option (Deadline T))
    (left : Nat) : (connectFrom e plan deadline budget left).Gives SameJobs (OnlyRaises e plan) := by
  -- what is left to do after an attempt is told how it ended
  have hattempt : ∀ attempt (next : Except Raised Nat → Act (Pool ω T) Nat),
      (∀ connection, next (.ok connection) = return connection) →
      (∀ r w, (e.connect w).1 = .error r → (next (.error r)).Gives SameJobs (OnlyRaises e plan)) →
      (tryConnect e plan attempt >>= next).Gives SameJobs (OnlyRaises e plan) := by
    intro attempt next hok hnext
    refine (tryConnect_gives plan attempt).bind (fun result h => ?_) fun r h => ?_
    · rcases h with ⟨connection, h⟩ | ⟨r, w, hw, h | h⟩
      · obtain rfl := Except.ok.inj h
        rw [hok]
        exact Act.gives_pure fun _ h => (nomatch h)
      · obtain rfl := Except.ok.inj h
        exact hnext r w hw
      · cases h
    · rcases h with ⟨_, h⟩ | ⟨r', w, hw, h | h⟩
      · cases h
      · cases h
      · obtain rfl := Except.error.inj h
        rintro _ ⟨⟩
        exact .connect w hw
  induction left with
  | zero =>
    refine hattempt plan.attempts _ (fun _ => rfl) fun r w hw => Act.gives_raise ?_
    rintro _ ⟨⟩
    exact .unconnected w hw
  | succ left ih =>
    refine hattempt (plan.attempts - (left + 1)) _ (fun _ => rfl) fun r w hw => ?_
    refine (outOfTime_gives plan deadline budget).bind (fun late _ => ?_) fun _ h => (nomatch h)
    split
    · refine Act.gives_raise ?_
      rintro _ ⟨⟩
      exact .unconnected w hw
    · exact (pauseBetween_gives plan).bind (fun _ _ => ih) fun _ h => (nomatch h)

variable [Add T]

theorem acquire_gives (plan : PoolPlan T) (deadline : Deadline T) :
    (acquire e plan deadline).Gives SameJobs (OnlyRaises e plan) := by
  unfold acquire
  cases plan.budget with
  | none => exact connectFrom_gives plan deadline none _
  | some seconds =>
    refine Act.Gives.bind (P := fun o => ∃ d, o = .ok d) (fun _ => ⟨rfl, _, rfl⟩) (fun d _ => ?_)
      fun _ h => (nomatch h)
    exact connectFrom_gives plan deadline (some d) _

theorem openStatement_gives (plan : PoolPlan T) (sql : String) (deadline : Deadline T) :
    (openStatement e plan sql deadline).Gives SameJobs (OnlyRaises e plan) := by
  have hany : ∀ {α : Type} {r : Raised}, e.Raises plan r → OnlyRaises e plan (.error r : Except Raised α) := by
    rintro α r hr _ ⟨⟩
    exact hr
  unfold openStatement
  refine (acquire_gives plan deadline).bind (fun connection _ => ?_) fun r h => hany (h r rfl)
  refine Act.Gives.bind (P := fun o => ∃ w, o = .ok (e.run connection sql w).1)
    (engineStep_gives _ fun w => ⟨w, rfl⟩) ?_ fun _ h => (nomatch h)
  rintro result ⟨w, hw⟩
  obtain rfl := Except.ok.inj hw
  cases hresult : (e.run connection sql w).1 with
  | ok result => exact fun s => ⟨rfl, fun _ h => (nomatch h)⟩
  | error r =>
    refine (engineCall_gives _).bind (fun _ _ => Act.gives_raise (hany (.run connection sql w hresult))) ?_
    rintro r' ⟨w', hw'⟩
    exact hany (.close connection w' hw')

end Opening

/-- How a job has ended by now for the call that waits for it. -/
inductive Ends [LE T] (e : Engine ω T) (plan : PoolPlan T) (now : T) (j : Job T) : Except Raised Nat → Prop
  | opened {cursor : Nat} (h : j.stage = .opened cursor) : Ends e plan now j (.ok cursor)
  | failed {r : Raised} (h : j.stage = .failed r) (hraised : e.Raises plan r)
    (hother : ∀ f, r = .fault f → f.kind ≠ .timeout) : Ends e plan now j (.error r)
  /-- The engine's own timeout is taken for the one of the caller. -/
  | timeout {f : Fault} (h : j.stage = .failed (.fault f)) (hraised : e.Raises plan (.fault f))
    (hkind : f.kind = .timeout) : Ends e plan now j (.error (.failure j.deadline.exceeded))
  | late (h : j.stage = .cancelled ∨ j.stage = .running) (htime : j.deadline.expiresAt ≤ now) :
    Ends e plan now j (.error (.failure j.deadline.exceeded))

section Caller

variable {s : Session (Pool ω T)} {job : Nat} {j : Job T}

theorem submit_outcome (sql : String) (deadline : Deadline T) (hup : s.outside.shutDown = false) :
    ∃ s', (submit sql deadline).outcome s = (.ok s.outside.jobs.length, s') ∧
      s'.outside = { s.outside with jobs := s.outside.jobs ++ [⟨sql, deadline, .queued, false⟩] } := by
  unfold submit
  rw [Act.outcome_bind, Act.outcome_outside]
  dsimp only
  rw [if_neg (by simp [hup])]
  exact ⟨_, rfl, rfl⟩

theorem setStage_outcome (stage : JobStage) (hj : s.outside.jobs[job]? = some j) :
    ∃ s', (setStage job stage).outcome s = (.ok (), s') ∧ s'.outside.jobs[job]? = some { j with stage } ∧
      s'.outside.engine = s.outside.engine := by
  refine ⟨_, rfl, ?_, rfl⟩
  dsimp only
  rw [List.getElem?_modify_eq, hj]
  rfl

theorem stageOf_outcome (hj : s.outside.jobs[job]? = some j) :
    (stageOf? job).outcome s = (.ok (some j.stage), s) := by
  unfold stageOf?
  rw [Act.outcome_bind, Act.outcome_outside]
  dsimp only
  rw [hj]
  rfl

theorem releaseLate_outcome (hj : s.outside.jobs[job]? = some j) (hnone : ∀ cursor, j.stage ≠ .opened cursor) :
    (releaseLate e job).outcome s = (.ok (), s) := by
  unfold releaseLate
  rw [Act.outcome_bind, stageOf_outcome hj]
  dsimp only
  split
  · rename_i cursor hopened
    exact absurd (Option.some.inj hopened) (hnone cursor)
  · rfl

/-- A job that has no cursor is given up without a word to the engine. -/
theorem abandon_outcome (hj : s.outside.jobs[job]? = some j) (hnone : ∀ cursor, j.stage ≠ .opened cursor) :
    ∃ j' s', (abandon e job).outcome s = (.ok (), s') ∧ s'.outside.jobs[job]? = some j' ∧
      s'.outside.engine = s.outside.engine ∧ j'.deadline = j.deadline ∧
      j'.stage = if j.stage = .queued then .cancelled else j.stage := by
  unfold abandon
  rw [Act.outcome_bind, stageOf_outcome hj]
  dsimp only
  split
  · rename_i hqueued
    obtain ⟨s', hset, hj', hsame⟩ := setStage_outcome .cancelled hj
    exact ⟨_, s', hset, hj', hsame, rfl, by rw [if_pos (Option.some.inj hqueued)]⟩
  · rename_i hother
    have hgiven : (s.outside.jobs.modify job fun j => { j with abandoned := true })[job]? =
        some { j with abandoned := true } := by
      rw [List.getElem?_modify_eq, hj]
      rfl
    rw [Act.outcome_bind, Act.outcome_change]
    dsimp only
    rw [releaseLate_outcome (j := { j with abandoned := true }) hgiven hnone]
    exact ⟨_, _, rfl, hgiven, rfl, rfl, by rw [if_neg fun h => hother (congrArg some h)]⟩

theorem timedOut_outcome {α : Type} (deadline : Deadline T) (hj : s.outside.jobs[job]? = some j)
    (hnone : ∀ cursor, j.stage ≠ .opened cursor) :
    ∃ j' s', (timedOut e job deadline : Act (Pool ω T) α).outcome s = (.error (.failure deadline.exceeded), s') ∧
      s'.outside.jobs[job]? = some j' ∧ s'.outside.engine = s.outside.engine ∧ j'.deadline = j.deadline ∧
      j'.stage = if j.stage = .queued then .cancelled else j.stage := by
  obtain ⟨j', s', habandon, hj'⟩ := abandon_outcome (e := e) hj hnone
  unfold timedOut
  rw [Act.outcome_bind, habandon]
  exact ⟨j', s', rfl, hj'⟩

/-- What a call does with its job once it has waited for it. -/
def answer (e : Engine ω T) (job : Nat) (deadline : Deadline T) : Act (Pool ω T) Nat := do
  match ← stageOf? job with
  | some (.opened cursor) => return cursor
  | some (.failed (.fault f)) =>
    if f.kind = .timeout then timedOut e job deadline else Act.raise (.fault f)
  | some (.failed r) => Act.raise r
  | _ => timedOut e job deadline

theorem awaited_ends [LE T] (plan : PoolPlan T) (hj : s.outside.jobs[job]? = some j)
    (hstage : (∃ cursor, j.stage = .opened cursor) ∨ (∃ r, j.stage = .failed r ∧ e.Raises plan r) ∨
      (j.stage = .queued ∨ j.stage = .running) ∧ j.deadline.expiresAt ≤ e.now s.outside.engine) :
    ∃ result j' s', (answer e job j.deadline).outcome s = (result, s') ∧ s'.outside.jobs[job]? = some j' ∧
      j'.deadline = j.deadline ∧ Ends e plan (e.now s'.outside.engine) j' result := by
  unfold answer
  rw [Act.outcome_bind, stageOf_outcome hj]
  dsimp only
  rcases hstage with ⟨cursor, hopened⟩ | ⟨r, hfailed, hraised⟩ | ⟨hunfinished, htime⟩
  · rw [hopened]
    exact ⟨_, j, s, rfl, hj, rfl, .opened hopened⟩
  · rw [hfailed]
    cases r with
    | failure f =>
      exact ⟨_, j, s, rfl, hj, rfl, .failed hfailed hraised (fun _ h => nomatch h)⟩
    | fault f =>
      dsimp only
      by_cases hkind : f.kind = .timeout
      · obtain ⟨j', s', htimedOut, hj', -, hdeadline, hstage⟩ :=
          timedOut_outcome (e := e) (α := Nat) j.deadline hj fun cursor h => nomatch hfailed.symm.trans h
        rw [if_pos hkind, htimedOut]
        rw [if_neg (by simp [hfailed])] at hstage
        exact ⟨_, j', s', rfl, hj', hdeadline, hdeadline ▸ .timeout (hstage.trans hfailed) hraised hkind⟩
      · rw [if_neg hkind]
        refine ⟨_, j, s, rfl, hj, rfl, .failed hfailed hraised fun g hg => ?_⟩
        rwa [← Raised.fault.inj hg]
  · obtain ⟨j', s', htimedOut, hj', hsame, hdeadline, hstage⟩ :=
      timedOut_outcome (e := e) (α := Nat) j.deadline hj fun cursor h => by
        rcases hunfinished with hqueued | hrunning
        · exact nomatch hqueued.symm.trans h
        · exact nomatch hrunning.symm.trans h
    have hgiven : j'.stage = .cancelled ∨ j'.stage = .running := by
      rcases hunfinished with hqueued | hrunning
      · exact Or.inl (hstage.trans (if_pos hqueued))
      · exact Or.inr (hstage.trans ((if_neg (by simp [hrunning])).trans hrunning))
    have hends : Ends e plan (e.now s'.outside.engine) j' (.error (.failure j'.deadline.exceeded)) :=
      .late hgiven (by rw [hdeadline, hsame]; exact htime)
    rw [hdeadline] at hends
    rcases hunfinished with hqueued | hrunning
    · rw [hqueued]
      exact ⟨_, j', s', htimedOut, hj', hdeadline, hends⟩
    · rw [hrunning]
      exact ⟨_, j', s', htimedOut, hj', hdeadline, hends⟩

end Caller

variable [Add T] [Sub T] [OfNat T 0] [LT T] [LE T] [DecidableLT T] [DecidableLE T]

theorem work_outcome (plan : PoolPlan T) {s : Session (Pool ω T)} {job : Nat} {j : Job T}
    (hj : s.outside.jobs[job]? = some j) (hcalled : j.abandoned = false) :
    ∃ stage s', (work e plan job).outcome s = (.ok (), s') ∧ s'.outside.jobs[job]? = some { j with stage } ∧
      ((∃ cursor, stage = .opened cursor) ∨ ∃ r, stage = .failed r ∧ e.Raises plan r) := by
  obtain ⟨s₁, hset, hj₁, -⟩ := setStage_outcome .running hj
  have hbegin : ∃ s₂, (engineMove e.begin).outcome s₁ = (.ok (), s₂) ∧
      s₂.outside.jobs[job]? = some { j with stage := .running } := ⟨_, rfl, hj₁⟩
  obtain ⟨s₂, hbegin, hj₂⟩ := hbegin
  obtain ⟨hjobs, hresult⟩ := openStatement_gives (e := e) plan j.sql j.deadline s₂
  unfold work
  rw [Act.outcome_bind, Act.outcome_outside]
  dsimp only
  rw [hj]
  dsimp only
  rw [Act.outcome_bind, hset]
  dsimp only
  rw [Act.outcome_bind, hbegin]
  dsimp only
  rw [Act.outcome_bind, Act.outcome_caught]
  generalize (openStatement e plan j.sql j.deadline).outcome s₂ = o at hjobs hresult
  obtain ⟨result, s₃⟩ := o
  have hj₃ : s₃.outside.jobs[job]? = some { j with stage := .running } := by
    rw [show s₃.outside.jobs = s₂.outside.jobs from hjobs]
    exact hj₂
  cases result with
  | ok cursor =>
    obtain ⟨s₄, hend, hj₄, -⟩ := setStage_outcome (.opened cursor) hj₃
    dsimp only
    rw [Act.outcome_bind, hend]
    refine ⟨_, s₄, ?_, hj₄, Or.inl ⟨cursor, rfl⟩⟩
    dsimp only
    rw [hcalled]
    rfl
  | error r =>
    obtain ⟨s₄, hend, hj₄, -⟩ := setStage_outcome (.failed r) hj₃
    dsimp only
    rw [Act.outcome_bind, hend]
    refine ⟨_, s₄, ?_, hj₄, Or.inr ⟨r, rfl, hresult r rfl⟩⟩
    dsimp only
    rw [hcalled]
    rfl

theorem openBounded_eq (plan : PoolPlan T) (sql : String) (deadline : Deadline T) :
    openBounded e plan sql deadline = (do
      let job ← submit sql deadline
      match e.turn (← Act.outside).engine with
      | .atOnce => work e plan job
      | .later started =>
        if started then setStage job .running
        engineMove (e.wait (deadline.remaining (← now e)))
      answer e job deadline) :=
  rfl

end Pool

/-- An engine whose clock has gone on by the time that a worker was waited for. -/
def Engine.Waits [Add T] [LE T] [OfNat T 0] (e : Engine ω T) : Prop :=
  ∀ t w, 0 ≤ t → e.now w + t ≤ e.now (e.wait t w)

variable [AddCommGroup T] [LinearOrder T] [IsOrderedAddMonoid T]

theorem Deadline.le_add_remaining (d : Deadline T) (now : T) : d.expiresAt ≤ now + d.remaining now := by
  unfold Deadline.remaining
  split
  · rw [add_sub_cancel]
  · rename_i hpast
    rw [add_zero]
    exact sub_nonpos.mp (not_lt.mp hpast)

namespace Pool

theorem openBounded_ends (hwaits : e.Waits) (plan : PoolPlan T) (sql : String) (deadline : Deadline T)
    {s : Session (Pool ω T)} (hup : s.outside.shutDown = false) :
    ∃ result j s', (openBounded e plan sql deadline).outcome s = (result, s') ∧
      s'.outside.jobs[s.outside.jobs.length]? = some j ∧ j.deadline = deadline ∧
      Ends e plan (e.now s'.outside.engine) j result := by
  obtain ⟨s₁, hsubmit, hs₁⟩ := submit_outcome sql deadline hup
  have hj₁ : s₁.outside.jobs[s.outside.jobs.length]? = some ⟨sql, deadline, .queued, false⟩ := by
    rw [hs₁]
    exact List.getElem?_concat_length
  rw [openBounded_eq, Act.outcome_bind, hsubmit]
  dsimp only
  rw [Act.outcome_bind, Act.outcome_outside]
  dsimp only
  cases e.turn s₁.outside.engine with
  | atOnce =>
    obtain ⟨stage, s₂, hwork, hj₂, hstage⟩ := work_outcome (e := e) plan hj₁ rfl
    obtain ⟨result, j, s', hanswer, hj, hdeadline, hends⟩ := awaited_ends (e := e) plan hj₂ (hstage.imp_right Or.inl)
    dsimp only
    rw [Act.outcome_bind, hwork]
    exact ⟨result, j, s', hanswer, hj, hdeadline, hends⟩
  | later started =>
    have hwait : ∀ {s₂ : Session (Pool ω T)} {stage : JobStage}, stage = .queued ∨ stage = .running →
        s₂.outside.jobs[s.outside.jobs.length]? = some ⟨sql, deadline, stage, false⟩ →
        ∃ result j s', (do
            engineMove (e.wait (deadline.remaining (← now e)))
            answer e s.outside.jobs.length deadline : Act (Pool ω T) Nat).outcome s₂ = (result, s') ∧
          s'.outside.jobs[s.outside.jobs.length]? = some j ∧ j.deadline = deadline ∧
          Ends e plan (e.now s'.outside.engine) j result := by
      intro s₂ stage hstage hj₂
      have hpassed := (deadline.le_add_remaining (e.now s₂.outside.engine)).trans
        (hwaits _ s₂.outside.engine (deadline.remaining_nonneg _))
      have hnow : (now e).outcome s₂ = (.ok (e.now s₂.outside.engine), s₂) := rfl
      have hmoved : ∃ s₃, (engineMove (e.wait (deadline.remaining (e.now s₂.outside.engine)))).outcome s₂ =
          (.ok (), s₃) ∧ s₃.outside.jobs = s₂.outside.jobs ∧ deadline.expiresAt ≤ e.now s₃.outside.engine :=
        ⟨_, rfl, rfl, hpassed⟩
      obtain ⟨s₃, hmoved, hjobs, htime⟩ := hmoved
      rw [← hjobs] at hj₂
      obtain ⟨result, j, s', hanswer, hends⟩ := awaited_ends (e := e) plan hj₂ (Or.inr (Or.inr ⟨hstage, htime⟩))
      refine ⟨result, j, s', ?_, hends⟩
      rw [Act.outcome_bind, hnow]
      dsimp only
      rw [Act.outcome_bind, hmoved]
      exact hanswer
    cases started with
    | true =>
      obtain ⟨s₂, hset, hj₂, -⟩ := setStage_outcome .running hj₁
      obtain ⟨result, j, s', hrun, hends⟩ := hwait (Or.inr rfl) hj₂
      refine ⟨result, j, s', ?_, hends⟩
      rw [← hrun]
      dsimp only
      rw [if_pos rfl, Act.outcome_bind, hset]
    | false =>
      exact hwait (Or.inl rfl) hj₁

end Pool

end QueryGate
