import QueryGate.Proofs.Connection.Ping
import QueryGate.Proofs.Connection.Report
/-! Which failures a circuit counts. It counts every statement that it lets through and that is not opened,
also one for which the engine was never asked for a connection. -/

namespace QueryGate

variable {ι ω T α β : Type}

/-- The engine with a count of the connections that it was asked for. -/
def Engine.tallied (e : Engine ω T) : Engine (ω × Nat) T where
  now w := e.now w.1
  sleep t w := (e.sleep t w.1, w.2)
  wait t w := (e.wait t w.1, w.2)
  turn w := e.turn w.1
  begin w := (e.begin w.1, w.2)
  connect w := ((e.connect w.1).1, (e.connect w.1).2, w.2 + 1)
  run connection sql w := ((e.run connection sql w.1).1, (e.run connection sql w.1).2, w.2)
  columns result w := e.columns result w.1
  fetch result size w := ((e.fetch result size w.1).1, (e.fetch result size w.1).2, w.2)
  fetchesLeft result w := e.fetchesLeft result w.1
  closeResult result w := ((e.closeResult result w.1).1, (e.closeResult result w.1).2, w.2)
  closeConnection connection w :=
    ((e.closeConnection connection w.1).1, (e.closeConnection connection w.1).2, w.2)
  dispose w := (e.dispose w.1, w.2)

namespace Pool

/-- Connections were asked for at least as often. -/
def AsksOn (p q : Pool (ω × Nat) T) : Prop :=
  p.engine.2 ≤ q.engine.2

/-- A connection was asked for in between. -/
def Asks (p q : Pool (ω × Nat) T) : Prop :=
  p.engine.2 < q.engine.2

instance : IsPreorder (Pool (ω × Nat) T) AsksOn where
  refl _ := Nat.le_refl _
  trans _ _ _ := Nat.le_trans

theorem asks_bind {a : Act (Pool (ω × Nat) T) α} {f : α → Act (Pool (ω × Nat) T) β} (h : a.Follows Asks)
    (hf : ∀ x, (f x).Follows AsksOn) : (a >>= f).Follows Asks := by
  intro s
  have hs := h s
  rw [Act.outcome_bind]
  generalize a.outcome s = o at hs
  rcases o with ⟨e | x, s'⟩
  · exact hs
  · exact Nat.lt_of_lt_of_le hs (hf x s')

section Asking

variable {e : Engine ω T} [AddCommGroup T] [LinearOrder T]

theorem steps_asksOn : e.tallied.Steps AsksOn where
  sleep _ _ _ := Nat.le_refl _
  wait _ _ _ := Nat.le_refl _
  begin _ := Nat.le_refl _
  connect _ := Nat.le_succ _
  run _ _ _ := Nat.le_refl _
  closeResult _ _ := Nat.le_refl _
  closeConnection _ _ := Nat.le_refl _
  jobs _ _ _ := Nat.le_refl _
  cursors _ _ := Nat.le_refl _

omit [AddCommGroup T] [LinearOrder T] in
theorem tryConnect_asks (plan : PoolPlan T) (attempt : Nat) : (tryConnect e.tallied plan attempt).Follows Asks := by
  refine asks_bind (follows_engineStep fun _ => Nat.lt_succ_self _) fun result => ?_
  cases result with
  | ok connection => exact Act.follows_pure _
  | error r =>
    dsimp only
    split
    · exact (Act.follows_log _ _ _).bind fun _ => Act.follows_pure _
    · exact Act.follows_raise r

theorem connectFrom_asks (plan : PoolPlan T) (deadline : Deadline T) (budget : Option (Deadline T)) (left : Nat) :
    (connectFrom e.tallied plan deadline budget left).Follows Asks := by
  cases left with
  | zero =>
    refine asks_bind (tryConnect_asks plan _) fun result => ?_
    cases result with
    | ok connection => exact Act.follows_pure connection
    | error r => exact Act.follows_raise _
  | succ left =>
    refine asks_bind (tryConnect_asks plan _) fun result => ?_
    cases result with
    | ok connection => exact Act.follows_pure connection
    | error r =>
      refine (follows_outOfTime plan deadline budget).bind fun out => ?_
      split
      · exact Act.follows_raise _
      · exact (follows_pauseBetween steps_asksOn plan).bind fun _ =>
          follows_connectFrom steps_asksOn plan deadline budget left

theorem acquire_asks (plan : PoolPlan T) (deadline : Deadline T) : (acquire e.tallied plan deadline).Follows Asks := by
  unfold acquire
  cases plan.budget with
  | none => exact fun s => connectFrom_asks plan deadline none _ s
  | some seconds =>
    exact fun s => connectFrom_asks plan deadline
      (some (.after seconds.1 seconds.2 (e.tallied.now s.outside.engine))) _ s

theorem openStatement_asks (plan : PoolPlan T) (sql : String) (deadline : Deadline T) :
    (openStatement e.tallied plan sql deadline).Follows Asks := by
  refine asks_bind (acquire_asks plan deadline) fun connection => ?_
  refine (follows_engineStep (steps_asksOn.run connection sql)).bind fun result => ?_
  cases result with
  | ok result => exact Act.follows_step fun _ => Nat.le_refl _
  | error r =>
    exact (follows_engineCall (steps_asksOn.closeConnection connection)).bind fun _ => Act.follows_raise r

/-- A worker that runs a job asks for a connection. -/
theorem work_asks (plan : PoolPlan T) {s : Session (Pool (ω × Nat) T)} {job : Nat} {j : Job T}
    (hj : s.outside.jobs[job]? = some j) :
    s.outside.engine.2 < ((work e.tallied plan job).outcome s).2.outside.engine.2 := by
  obtain ⟨s₁, hset, -, hsame⟩ := setStage_outcome .running hj
  have hbegin : ∃ s₂, (engineMove e.tallied.begin).outcome s₁ = (.ok (), s₂) ∧
      s₂.outside.engine.2 = s₁.outside.engine.2 := ⟨_, rfl, rfl⟩
  obtain ⟨s₂, hbegin, hs₂⟩ := hbegin
  unfold work
  rw [Act.outcome_bind, Act.outcome_outside]
  dsimp only
  rw [hj]
  dsimp only
  rw [Act.outcome_bind, hset]
  dsimp only
  rw [Act.outcome_bind, hbegin, ← hsame, ← hs₂]
  refine asks_bind (openStatement_asks plan j.sql j.deadline).caught (fun result => ?_) s₂
  have hlast : (if j.abandoned then releaseLate e.tallied job else pure ()).Follows AsksOn := by
    split
    · exact follows_releaseLate steps_asksOn job
    · exact Act.follows_pure ()
  cases result with
  | ok cursor => exact (follows_setStage (e := e.tallied) steps_asksOn job (.opened cursor)).bind fun _ => hlast
  | error r => exact (follows_setStage (e := e.tallied) steps_asksOn job (.failed r)).bind fun _ => hlast

end Asking

/-- Why no statement was opened at a call, from the pool before and after it. -/
inductive Blame [AddCommGroup T] [LinearOrder T] (e : Engine ω T) (plan : PoolPlan T) (p p' : Pool (ω × Nat) T) : Prop
  /-- The handle had been disposed of. -/
  | shutDown (hdown : p.shutDown = true) (hengine : p'.engine = p.engine)
  /-- No worker took the job up. -/
  | cancelled {j : Job T} (hj : p'.jobs[p.jobs.length]? = some j) (hstage : j.stage = .cancelled)
    (hasked : p'.engine.2 = p.engine.2)
  /-- A worker has taken the job up, and as it goes on it asks for a connection. -/
  | running {j : Job T} (hj : p'.jobs[p.jobs.length]? = some j) (hstage : j.stage = .running)
    (hasks : ∀ s : Session (Pool (ω × Nat) T), s.outside.jobs[p.jobs.length]? = some j →
      s.outside.engine.2 < ((work e.tallied plan p.jobs.length).outcome s).2.outside.engine.2)
  | failed {j : Job T} {r : Raised} (hj : p'.jobs[p.jobs.length]? = some j) (hstage : j.stage = .failed r)
    (hasked : p.engine.2 < p'.engine.2)

/-- The circuit has no part in it. -/
theorem Blame.recircuit [AddCommGroup T] [LinearOrder T] {e : Engine ω T} {plan : PoolPlan T}
    {p p' : Pool (ω × Nat) T} {c c' : Circuit T} (h : Blame e plan { p with circuit := c } p') :
    Blame e plan p { p' with circuit := c' } := by
  cases h with
  | shutDown hdown hengine => exact .shutDown hdown hengine
  | cancelled hj hstage hasked => exact .cancelled hj hstage hasked
  | running hj hstage hasks => exact .running hj hstage hasks
  | failed hj hstage hasked => exact .failed hj hstage hasked

section Opening

theorem answer_opened {e : Engine ω T} {s : Session (Pool ω T)} {job cursor : Nat} {j : Job T} (deadline : Deadline T)
    (hj : s.outside.jobs[job]? = some j) (hstage : j.stage = .opened cursor) :
    (answer e job deadline).outcome s = (.ok cursor, s) := by
  unfold answer
  rw [Act.outcome_bind, stageOf_outcome hj, hstage]
  rfl

/-- A call whose job has no cursor fails without a word to the engine. -/
theorem answer_unopened {e : Engine ω T} {s : Session (Pool ω T)} {job : Nat} {j : Job T} (deadline : Deadline T)
    (hj : s.outside.jobs[job]? = some j) (hnone : ∀ cursor, j.stage ≠ .opened cursor) :
    ∃ r j' s', (answer e job deadline).outcome s = (.error r, s') ∧ s'.outside.jobs[job]? = some j' ∧
      s'.outside.engine = s.outside.engine ∧ j'.stage = if j.stage = .queued then .cancelled else j.stage := by
  obtain ⟨j', s', hlate, hj', hsame, -, hstage⟩ := timedOut_outcome (e := e) (α := Nat) deadline hj hnone
  have hraised : ∀ r, j.stage = .failed r → j.stage = if j.stage = .queued then .cancelled else j.stage := by
    intro r hr
    rw [if_neg (by simp [hr])]
  unfold answer
  rw [Act.outcome_bind, stageOf_outcome hj]
  dsimp only
  split
  · rename_i cursor hopened
    exact absurd (Option.some.inj hopened) (hnone cursor)
  · rename_i f hfailed
    split
    · exact ⟨_, j', s', hlate, hj', hsame, hstage⟩
    · exact ⟨_, j, s, rfl, hj, rfl, hraised _ (Option.some.inj hfailed)⟩
  · rename_i r _ hfailed
    exact ⟨_, j, s, rfl, hj, rfl, hraised r (Option.some.inj hfailed)⟩
  · exact ⟨_, j', s', hlate, hj', hsame, hstage⟩

variable {e : Engine ω T} {s : Session (Pool (ω × Nat) T)} [AddCommGroup T] [LinearOrder T]

/-- A job that a worker runs at once asks for a connection. -/
theorem openBounded_atOnce (plan : PoolPlan T) (sql : String) (deadline : Deadline T)
    (hup : s.outside.shutDown = false) (hturn : e.turn s.outside.engine.1 = .atOnce) :
    (∃ cursor s', (openBounded e.tallied plan sql deadline).outcome s = (.ok cursor, s')) ∨
      ∃ r s' j r', (openBounded e.tallied plan sql deadline).outcome s = (.error r, s') ∧
        s'.outside.jobs[s.outside.jobs.length]? = some j ∧ j.stage = .failed r' ∧
        s.outside.engine.2 < s'.outside.engine.2 := by
  obtain ⟨s₁, hsubmit, hs₁⟩ := submit_outcome sql deadline hup
  have hj₁ : s₁.outside.jobs[s.outside.jobs.length]? = some ⟨sql, deadline, .queued, false⟩ := by
    rw [hs₁]
    exact List.getElem?_concat_length
  have hturn₁ : e.tallied.turn s₁.outside.engine = .atOnce := by rwa [hs₁]
  have hasks := work_asks (e := e) plan hj₁
  obtain ⟨stage, s₂, hwork, hj₂, hstage⟩ := work_outcome (e := e.tallied) plan hj₁ rfl
  rw [hwork, hs₁] at hasks
  rw [openBounded_eq, Act.outcome_bind, hsubmit]
  dsimp only
  rw [Act.outcome_bind, Act.outcome_outside]
  dsimp only
  rw [hturn₁]
  dsimp only
  rw [Act.outcome_bind, hwork]
  dsimp only
  rcases hstage with ⟨cursor, rfl⟩ | ⟨r', rfl, -⟩
  · exact Or.inl ⟨cursor, s₂, answer_opened deadline hj₂ rfl⟩
  · obtain ⟨r, j, s', hanswer, hj, hsame, hfailed⟩ :=
      answer_unopened (e := e.tallied) deadline hj₂ fun _ h => nomatch h
    exact Or.inr ⟨r, s', j, r', hanswer, hj, hfailed, hsame ▸ hasks⟩

/-- A call that has waited for a job without a cursor fails. -/
theorem answer_waited {job : Nat} {j : Job T} (deadline : Deadline T) (hj : s.outside.jobs[job]? = some j)
    (hnone : ∀ cursor, j.stage ≠ .opened cursor) :
    ∃ r s' j', (do
        engineMove (e.tallied.wait (deadline.remaining (← now e.tallied)))
        answer e.tallied job deadline : Act (Pool (ω × Nat) T) Nat).outcome s = (.error r, s') ∧
      s'.outside.jobs[job]? = some j' ∧ j'.stage = (if j.stage = .queued then .cancelled else j.stage) ∧
      s'.outside.engine.2 = s.outside.engine.2 := by
  have hmoved : ∃ s₁, (do engineMove (e.tallied.wait (deadline.remaining (← now e.tallied))) :
        Act (Pool (ω × Nat) T) Unit).outcome s = (.ok (), s₁) ∧
      s₁.outside.jobs = s.outside.jobs ∧ s₁.outside.engine.2 = s.outside.engine.2 := ⟨_, rfl, rfl, rfl⟩
  obtain ⟨s₁, hmoved, hjobs, hsame⟩ := hmoved
  rw [← hjobs] at hj
  obtain ⟨r, j', s', hanswer, hj', hsame', hstage⟩ := answer_unopened (e := e.tallied) deadline hj hnone
  refine ⟨r, s', j', ?_, hj', hstage, (congrArg Prod.snd hsame').trans hsame⟩
  rw [← bind_assoc, Act.outcome_bind, hmoved]
  exact hanswer

/-- A job that no worker brings to its end in time has asked for nothing, and the call fails. -/
theorem openBounded_later (plan : PoolPlan T) (sql : String) (deadline : Deadline T) {started : Bool}
    (hup : s.outside.shutDown = false) (hturn : e.turn s.outside.engine.1 = .later started) :
    ∃ r s' j, (openBounded e.tallied plan sql deadline).outcome s = (.error r, s') ∧
      s'.outside.jobs[s.outside.jobs.length]? = some j ∧
      j.stage = (if started then .running else .cancelled) ∧ s'.outside.engine.2 = s.outside.engine.2 := by
  obtain ⟨s₁, hsubmit, hs₁⟩ := submit_outcome sql deadline hup
  have hj₁ : s₁.outside.jobs[s.outside.jobs.length]? = some ⟨sql, deadline, .queued, false⟩ := by
    rw [hs₁]
    exact List.getElem?_concat_length
  have hturn₁ : e.tallied.turn s₁.outside.engine = .later started := by rwa [hs₁]
  have hasked : s₁.outside.engine.2 = s.outside.engine.2 := by rw [hs₁]
  rw [openBounded_eq, Act.outcome_bind, hsubmit]
  dsimp only
  rw [Act.outcome_bind, Act.outcome_outside]
  dsimp only
  rw [hturn₁]
  cases started with
  | true =>
    obtain ⟨s₂, hset, hj₂, hsame⟩ := setStage_outcome .running hj₁
    obtain ⟨r, s', j, hrun, hj, hstage, hkept⟩ := answer_waited deadline hj₂ fun _ h => nomatch h
    refine ⟨r, s', j, ?_, hj, hstage, hkept.trans ((congrArg Prod.snd hsame).trans hasked)⟩
    rw [← hrun]
    dsimp only
    rw [if_pos rfl, Act.outcome_bind, hset]
  | false =>
    obtain ⟨r, s', j, hrun, hj, hstage, hkept⟩ := answer_waited deadline hj₁ fun _ h => nomatch h
    exact ⟨r, s', j, hrun, hj, hstage, hkept.trans hasked⟩

theorem openBounded_blame (plan : PoolPlan T) (sql : String) (deadline : Deadline T) {r : Raised}
    {s' : Session (Pool (ω × Nat) T)} (h : (openBounded e.tallied plan sql deadline).outcome s = (.error r, s')) :
    Blame e plan s.outside s'.outside := by
  cases hdown : s.outside.shutDown with
  | true =>
    rw [openBounded_shutDown plan sql deadline hdown] at h
    obtain ⟨-, rfl⟩ := Prod.mk.inj h
    exact .shutDown hdown rfl
  | false =>
    cases hturn : e.turn s.outside.engine.1 with
    | atOnce =>
      rcases openBounded_atOnce plan sql deadline hdown hturn with
        ⟨cursor, s₁, hopened⟩ | ⟨r₁, s₁, j, r', hfails, hj, hstage, hasked⟩
      · rw [hopened] at h
        cases h
      · rw [hfails] at h
        obtain ⟨-, rfl⟩ := Prod.mk.inj h
        exact .failed hj hstage hasked
    | later started =>
      obtain ⟨r₁, s₁, j, hfails, hj, hstage, hasked⟩ := openBounded_later plan sql deadline hdown hturn
      rw [hfails] at h
      obtain ⟨-, rfl⟩ := Prod.mk.inj h
      cases started with
      | true => exact .running hj hstage fun s hs => work_asks plan hs
      | false => exact .cancelled hj hstage hasked

/-- A statement that no worker will take up fails, and nothing was asked for. -/
theorem openBounded_untaken (plan : PoolPlan T) (sql : String) (deadline : Deadline T)
    (h : s.outside.shutDown = true ∨ e.turn s.outside.engine.1 = .later false) :
    ∃ r s', (openBounded e.tallied plan sql deadline).outcome s = (.error r, s') ∧
      s'.outside.engine.2 = s.outside.engine.2 := by
  cases hdown : s.outside.shutDown with
  | true => exact ⟨_, s, openBounded_shutDown plan sql deadline hdown, rfl⟩
  | false =>
    obtain ⟨r, s', -, hfails, -, -, hasked⟩ :=
      openBounded_later plan sql deadline hdown (h.resolve_left (by simp [hdown]))
    exact ⟨r, s', hfails, hasked⟩

end Opening

end Pool

/-- A circuit between two calls. -/
structure Circuit.AtRest (c : Circuit T) : Prop where
  excluded : c.excluded = []
  state : c.state = .closed ∨ c.state = .opened ∧ c.openedAt ≠ none

namespace Circuit.AtRest

variable {c : Circuit T}

theorem afterSuccess (h : c.AtRest) : c.afterSuccess.AtRest :=
  ⟨h.excluded, Or.inl rfl⟩

theorem afterFailure (h : c.AtRest) (now : T) : (c.afterFailure now).AtRest := by
  rcases c.afterFailure_cases now with ⟨hclosed, -, heq⟩ | heq
  · rw [heq]
    exact ⟨h.excluded, Or.inl hclosed⟩
  · rw [heq]
    exact ⟨h.excluded, Or.inr ⟨rfl, Option.some_ne_none now⟩⟩

end Circuit.AtRest

theorem Circuit.failures_afterFailure (c : Circuit T) (now : T) : (c.afterFailure now).failures = c.failures + 1 := by
  rcases c.afterFailure_cases now with ⟨-, -, heq⟩ | heq
  · rw [heq]
    rfl
  · rw [heq]

/-! Calls of a handle. -/

/-- What a handle may be called for. -/
inductive PoolCall (T : Type)
  | execute (sql label : String) (timeout : T)
  | ping (label : String) (timeout : T)
  | dispose

/-- The statement that a call opens, with its time. -/
def PoolCall.statement? : PoolCall T → Option (String × String × T)
  | .execute sql label timeout => some (sql, label, timeout)
  | .ping label timeout => some (Pool.pingStatement, label, timeout)
  | .dispose => none

section Calls

variable [AddCommGroup T] [LinearOrder T]

def PoolCall.act (e : Engine ω T) (plan : PoolPlan T) : PoolCall T → Act (Pool ω T) Unit
  | .execute sql label timeout => discard (Pool.execute e plan sql label timeout)
  | .ping label timeout => Pool.ping e plan label timeout
  | .dispose => Pool.dispose e

namespace Pool

variable {e : Engine ω T} {s : Session (Pool ω T)}

/-- A statement is refused by the circuit, or counted as it ends. -/
theorem openGuarded_counts (he : e.Forward) (plan : PoolPlan T) (sql : String) (deadline : Deadline T)
    (hrest : s.outside.circuit.AtRest) :
    (¬ s.outside.circuit.Admits (e.now s.outside.engine) ∧
        (openGuarded e plan sql deadline).outcome s = (.error (.failure unavailable), s)) ∨
      s.outside.circuit.Admits (e.now s.outside.engine) ∧
        ∃ s₁, s₁.outside = { s.outside with circuit := s.outside.circuit.during } ∧
          Passed e s.outside.circuit ((openBounded e plan sql deadline).outcome s₁)
            ((openGuarded e plan sql deadline).outcome s) := by
  by_cases hopen : s.outside.circuit.Admits (e.now s.outside.engine)
  · have hstate : s.outside.circuit.state ≠ .halfOpen := by
      rcases hrest.state with hclosed | ⟨hopened, -⟩
      · simp [hclosed]
      · simp [hopened]
    obtain ⟨s₁, hs₁, hpassed⟩ := circuit_admits (e := e) (openBounded e plan sql deadline)
      (fun s₁ hs₁ => by rw [(openBounded_keeps he plan sql deadline s₁).1, hs₁]) hrest.excluded hstate hopen
    refine Or.inr ⟨hopen, s₁, hs₁, hpassed.onFault fun f s => ?_⟩
    split
    · exact ⟨_, s, rfl, rfl⟩
    · exact ⟨_, _, rfl, rfl⟩
  · have hlast : s.outside.circuit.openedAt ≠ none :=
      (hrest.state.resolve_left fun hclosed => hopen (Or.inl (by simp [hclosed]))).2
    refine Or.inl ⟨hopen, ?_⟩
    unfold openGuarded
    rw [Act.outcome_onFault, circuit_refuses _ hlast hopen]
    rfl

/-- The circuit is as it was. -/
def SameCircuit (p q : Pool ω T) : Prop :=
  q.circuit = p.circuit

instance : IsPreorder (Pool ω T) SameCircuit where
  refl _ := rfl
  trans _ _ _ h h' := h'.trans h

theorem steps_sameCircuit : e.Steps SameCircuit := by
  constructor <;> intros <;> rfl

/-- What a call does once its statement is open leaves the circuit as it is. -/
theorem act_keeps (plan : PoolPlan T) {call : PoolCall T} {sql label : String} {timeout : T}
    (hcall : call.statement? = some (sql, label, timeout)) {o : Except Raised Nat} {s' : Session (Pool ω T)}
    (ho : (openGuarded e plan sql (.after label timeout (e.now s.outside.engine))).outcome s = (o, s')) :
    (∀ r, o = .error r → ((call.act e plan).outcome s).2 = s') ∧
      ((call.act e plan).outcome s).2.outside.circuit = s'.outside.circuit := by
  have hread : ∀ cursor, ((cursorOf e plan cursor).use (drain plan)).Follows SameCircuit := by
    intro cursor
    refine Act.Follows.andFinally ?_ (follows_closeCursor steps_sameCircuit cursor)
    refine Act.Follows.onFault ?_ fun f => (Act.follows_log _ _ _).bind fun _ => Act.follows_raise _
    exact (follows_rowsOf (fun _ _ => rfl) cursor).fold (fun _ _ => Act.follows_pure _) ()
  cases call with
  | dispose => cases hcall
  | execute =>
    cases hcall
    have hact : ((PoolCall.execute sql label timeout).act e plan).outcome s =
        (o.map fun _ => (), s') := by
      unfold PoolCall.act execute
      rw [Act.outcome_discard, Act.outcome_bind, deadlineAfter_outcome]
      dsimp only
      rw [Act.outcome_bind, ho]
      cases o <;> rfl
    rw [hact]
    exact ⟨fun _ _ => rfl, rfl⟩
  | ping =>
    cases hcall
    have hact : ((PoolCall.ping label timeout).act e plan).outcome s = (ping e plan label timeout).outcome s := rfl
    rw [hact, ping_eq, pingOpens, ho]
    cases o with
    | error r => exact ⟨fun _ _ => rfl, rfl⟩
    | ok cursor => exact ⟨fun _ h => (nomatch h), hread cursor s'⟩

end Pool

/-- What one call does to the count of a circuit at rest. -/
theorem PoolCall.act_counts {e : Engine ω T} (he : e.tallied.Forward) (plan : PoolPlan T) (call : PoolCall T)
    {s s' : Session (Pool (ω × Nat) T)} (hrest : s.outside.circuit.AtRest)
    (hs' : ((call.act e.tallied plan).outcome s).2 = s') :
    s'.outside.circuit.AtRest ∧
      (s.outside.circuit.failures < s'.outside.circuit.failures →
        s'.outside.circuit.failures = s.outside.circuit.failures + 1 ∧ Pool.Blame e plan s.outside s'.outside) ∧
      (call ≠ .dispose → s.outside.circuit.Admits (e.now s.outside.engine.1) →
        s.outside.shutDown = true ∨ e.turn s.outside.engine.1 = .later false →
        s'.outside.circuit.failures = s.outside.circuit.failures + 1 ∧
          s'.outside.engine.2 = s.outside.engine.2) := by
  cases hcall : call.statement? with
  | none =>
    obtain rfl : call = .dispose := by cases call <;> first | rfl | cases hcall
    subst hs'
    exact ⟨hrest, fun h => absurd h (lt_irrefl _), fun h => absurd rfl h⟩
  | some opening =>
    obtain ⟨sql, label, timeout⟩ := opening
    generalize hdeadline : Deadline.after label timeout (e.tallied.now s.outside.engine) = deadline
    have hcounts := Pool.openGuarded_counts he plan sql deadline hrest
    generalize ho : (Pool.openGuarded e.tallied plan sql deadline).outcome s = o at hcounts
    obtain ⟨result, t⟩ := o
    obtain ⟨hsame, hcircuit⟩ := Pool.act_keeps plan hcall (hdeadline ▸ ho)
    rw [hs'] at hsame hcircuit
    rcases hcounts with ⟨hrefused, hreturned⟩ | ⟨hadmitted, s₁, hs₁, hpassed⟩
    · obtain ⟨rfl, rfl⟩ := Prod.mk.inj hreturned
      rw [hcircuit]
      exact ⟨hrest, fun h => absurd h (lt_irrefl _), fun _ h => absurd h hrefused⟩
    · generalize hopened : (Pool.openBounded e.tallied plan sql deadline).outcome s₁ = own at hpassed
      cases hpassed with
      | success x s₂ t ht =>
        rw [hcircuit, ht]
        refine ⟨hrest.afterSuccess, fun h => absurd h (Nat.not_lt_zero _), fun _ _ huntaken => ?_⟩
        obtain ⟨r, s₃, hfails, -⟩ := Pool.openBounded_untaken (s := s₁) plan sql deadline (by rw [hs₁]; exact huntaken)
        rw [hopened] at hfails
        cases hfails
      | failure r r' s₂ t ht =>
        obtain rfl := hsame r' rfl
        have hblame := Pool.openBounded_blame plan sql deadline hopened
        rw [hs₁] at hblame
        rw [ht]
        refine ⟨hrest.afterFailure _, fun _ => ⟨Circuit.failures_afterFailure .., hblame.recircuit⟩,
          fun _ _ huntaken => ⟨Circuit.failures_afterFailure .., ?_⟩⟩
        obtain ⟨r₃, s₃, hfails, hasked⟩ :=
          Pool.openBounded_untaken (s := s₁) plan sql deadline (by rw [hs₁]; exact huntaken)
        rw [hopened] at hfails
        obtain ⟨-, rfl⟩ := Prod.mk.inj hfails
        rw [hasked, hs₁]

/-! Calls of handles that share a circuit. -/

theorem Engine.Forward.tallied {e : Engine ω T} (he : e.Forward) : e.tallied.Forward where
  sleep t w := he.sleep t w.1
  wait t w := he.wait t w.1
  begin w := he.begin w.1
  connect w := he.connect w.1
  run connection sql w := he.run connection sql w.1
  closeResult result w := he.closeResult result w.1
  closeConnection connection w := he.closeConnection connection w.1

def Handles.tallied (h : Handles ι ω T) : Handles ι (ω × Nat) T where
  engine i := (h.engine i).tallied
  plan := h.plan
  clock w := h.clock w.1
  now_eq i w := h.now_eq i w.1
  forward i := (h.forward i).tallied

/-- A call of one of the handles, and what it finds. -/
structure Occasion (ι ω T : Type) where
  before : Session (Fleet ι ω T)
  handle : ι
  call : PoolCall T

omit [AddCommGroup T] [LinearOrder T] in
theorem Fleet.pool_put [DecidableEq ι] (f : Fleet ι ω T) (i : ι) (p : Pool ω T) : (f.put i p).pool i = p := by
  simp [put, pool]

namespace Occasion

variable [DecidableEq ι]

def after (h : Handles ι ω T) (v : Occasion ι ω T) : Session (Fleet ι ω T) :=
  ((Fleet.through v.handle (v.call.act (h.engine v.handle) (h.plan v.handle))).outcome v.before).2

def pool (v : Occasion ι ω T) : Pool ω T :=
  v.before.outside.pool v.handle

def poolAfter (h : Handles ι ω T) (v : Occasion ι ω T) : Pool ω T :=
  (v.after h).outside.pool v.handle

/-- What one call does to the count of the circuit, with the connections counted that its engine was asked for. -/
structure IsCounted (h : Handles ι ω T) (v : Occasion ι (ω × Nat) T) : Prop where
  blamed : v.pool.circuit.failures < (v.poolAfter h.tallied).circuit.failures →
    (v.poolAfter h.tallied).circuit.failures = v.pool.circuit.failures + 1 ∧
      Pool.Blame (h.engine v.handle) (h.plan v.handle) v.pool (v.poolAfter h.tallied)
  /-- A statement that no worker will take up is counted like any other. -/
  untaken : v.call ≠ .dispose → v.pool.circuit.Admits (h.clock v.pool.engine.1) →
    v.pool.shutDown = true ∨ (h.engine v.handle).turn v.pool.engine.1 = .later false →
    (v.poolAfter h.tallied).circuit.failures = v.pool.circuit.failures + 1 ∧
      (v.poolAfter h.tallied).engine.2 = v.pool.engine.2

theorem counts (h : Handles ι ω T) (v : Occasion ι (ω × Nat) T) (hrest : v.before.outside.circuit.AtRest) :
    (v.after h.tallied).outside.circuit.AtRest ∧ v.IsCounted h := by
  generalize hrun : (v.call.act (h.tallied.engine v.handle) (h.tallied.plan v.handle)).outcome
    ⟨v.pool, v.before.log, v.before.trace⟩ = o
  obtain ⟨result, s'⟩ := o
  have hafter : v.after h.tallied = ⟨v.before.outside.put v.handle s'.outside, s'.log, s'.trace⟩ :=
    congrArg Prod.snd (Fleet.outcome_through hrun)
  have hpool : v.poolAfter h.tallied = s'.outside := by
    rw [poolAfter, hafter, Fleet.pool_put]
  obtain ⟨hrest', hblamed, huntaken⟩ := PoolCall.act_counts (e := h.engine v.handle) (h.forward v.handle).tallied
    (h.plan v.handle) v.call hrest (congrArg Prod.snd hrun)
  rw [h.now_eq] at huntaken
  rw [← hpool] at hblamed huntaken
  exact ⟨by rw [hafter]; exact hrest', hblamed, huntaken⟩

end Occasion

/-- Calls one after the other. Between them anything may happen but to the circuit. -/
inductive Occasions [DecidableEq ι] (h : Handles ι ω T) :
    Session (Fleet ι ω T) → List (Occasion ι ω T) → Session (Fleet ι ω T) → Prop
  | done (s) : Occasions h s [] s
  | elapse (s s₁ : Session (Fleet ι ω T)) {calls s'} : s₁.outside.circuit = s.outside.circuit →
      Occasions h s₁ calls s' → Occasions h s calls s'
  | call (v : Occasion ι ω T) {calls s'} : Occasions h (v.after h) calls s' → Occasions h v.before (v :: calls) s'

end Calls

/-- Two handles on engines that can never be reached. The workers of the second are never free. -/
def Handles.unattended : Handles Bool ℤ ℤ where
  engine second := { Engine.unreachable with turn := fun _ => if second then .later false else .atOnce }
  plan _ := ⟨"host", 1, 0, none, fetchBatchSize⟩
  clock w := w
  now_eq _ _ := rfl
  forward _ := ⟨Engine.unreachable_forward.sleep, Engine.unreachable_forward.wait, Engine.unreachable_forward.begin,
    Engine.unreachable_forward.connect, Engine.unreachable_forward.run, Engine.unreachable_forward.closeResult,
    Engine.unreachable_forward.closeConnection⟩

end QueryGate
