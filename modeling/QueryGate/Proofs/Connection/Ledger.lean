import QueryGate.Proofs.Follows
/-! What became of the connections of an engine. A recorded engine is the engine itself with a ledger beside
it, and each operation of a pool changes the ledger together with the jobs and the cursors. -/

namespace QueryGate

/-- The connections that the engine gave and those that were closed, once for each time. -/
structure Ledger where
  obtained : List Nat
  closed : List Nat
deriving DecidableEq

def Ledger.obtain (ledger : Ledger) : Except Raised Nat → Ledger
  | .ok connection => { ledger with obtained := connection :: ledger.obtained }
  | .error _ => ledger

def Ledger.close (ledger : Ledger) (connection : Nat) : Ledger :=
  { ledger with closed := connection :: ledger.closed }

variable {ω T : Type}

/-- The engine with a ledger, which it only writes. -/
def Engine.recorded (e : Engine ω T) : Engine (ω × Ledger) T where
  now w := e.now w.1
  sleep t w := (e.sleep t w.1, w.2)
  wait t w := (e.wait t w.1, w.2)
  turn w := e.turn w.1
  begin w := (e.begin w.1, w.2)
  connect w := ((e.connect w.1).1, (e.connect w.1).2, w.2.obtain (e.connect w.1).1)
  run connection sql w := ((e.run connection sql w.1).1, (e.run connection sql w.1).2, w.2)
  columns result w := e.columns result w.1
  fetch result size w := ((e.fetch result size w.1).1, (e.fetch result size w.1).2, w.2)
  fetchesLeft result w := e.fetchesLeft result w.1
  closeResult result w := ((e.closeResult result w.1).1, (e.closeResult result w.1).2, w.2)
  closeConnection connection w :=
    ((e.closeConnection connection w.1).1, (e.closeConnection connection w.1).2, w.2.close connection)
  dispose w := (e.dispose w.1, w.2)

/-- The part of a pool that connections pass through. -/
structure Holdings (T : Type) where
  jobs : List (Job T)
  cursors : List (OpenCursor T)
  ledger : Ledger

/-- Closes a cursor, unless it is closed, and its connection with it. -/
def Holdings.closeCursor (h : Holdings T) (i : Nat) : Holdings T :=
  match h.cursors[i]? with
  | none => h
  | some c =>
    if c.closed then h
    else
      { h with
        cursors := h.cursors.modify i fun c => { c with closed := true }
        ledger := h.ledger.close c.connection }

def Holdings.setStage (h : Holdings T) (job : Nat) (stage : JobStage) : Holdings T :=
  { h with jobs := h.jobs.modify job fun j => { j with stage } }

/-- Closes the cursor of a job that has one. -/
def Holdings.releaseLate (h : Holdings T) (job : Nat) : Holdings T :=
  match h.jobs[job]?.map Job.stage with
  | some (.opened i) => h.closeCursor i
  | _ => h

abbrev RecordedPool (ω T : Type) := Pool (ω × Ledger) T

def Pool.holdings (p : RecordedPool ω T) : Holdings T :=
  ⟨p.jobs, p.cursors, p.engine.2⟩

def Session.holdings (s : Session (RecordedPool ω T)) : Holdings T :=
  s.outside.holdings

namespace Pool

/-! What each operation does to the holdings. -/

theorem holdings_setStage (job : Nat) (stage : JobStage) (s : Session (RecordedPool ω T)) :
    ((setStage job stage).outcome s).2.holdings = s.holdings.setStage job stage := rfl

theorem outcome_stageOf (job : Nat) (s : Session (RecordedPool ω T)) :
    (stageOf? job).outcome s = (.ok (s.holdings.jobs[job]?.map Job.stage), s) := rfl

theorem outcome_engineCall {α : Type} (f : ω → Except Raised α × ω) (s : Session (Pool ω T)) :
    (engineCall f).outcome s = ((f s.outside.engine).1,
      { s with outside := { s.outside with engine := (f s.outside.engine).2 } }) := by
  simp [engineCall, engineStep, Act.outcome_bind]

theorem holdings_closeCursor (e : Engine ω T) (i : Nat) (s : Session (RecordedPool ω T)) :
    ((closeCursor e.recorded i).outcome s).2.holdings = s.holdings.closeCursor i := by
  unfold closeCursor Holdings.closeCursor
  rw [Act.outcome_bind, Act.outcome_outside]
  have hcursors : s.holdings.cursors = s.outside.cursors := rfl
  rw [hcursors]
  dsimp only
  cases s.outside.cursors[i]? with
  | none => rfl
  | some c =>
    by_cases hclosed : c.closed = true
    · simp [hclosed]
    · simp only [hclosed, Act.outcome_bind, Act.outcome_change, Act.outcome_andFinally,
        outcome_engineCall, Bool.false_eq_true, if_false]
      -- the connection is closed before an error of either call is looked at
      split
      · rename_i heq
        obtain ⟨-, rfl⟩ := Prod.mk.inj heq
        rfl
      · rename_i heq
        obtain ⟨-, rfl⟩ := Prod.mk.inj heq
        rfl

theorem holdings_releaseLate (e : Engine ω T) (job : Nat) (s : Session (RecordedPool ω T)) :
    ((releaseLate e.recorded job).outcome s).2.holdings = s.holdings.releaseLate job ∧
      ((releaseLate e.recorded job).outcome s).1 = .ok () := by
  unfold releaseLate Holdings.releaseLate
  rw [Act.outcome_bind, outcome_stageOf]
  dsimp only
  rcases s.holdings.jobs[job]?.map Job.stage with _ | stage
  · exact ⟨rfl, rfl⟩
  · cases stage with
    | opened i =>
      simp only [Act.outcome_bind, Act.outcome_log, Act.outcome_discard, Act.outcome_caught,
        holdings_closeCursor]
      exact ⟨rfl, rfl⟩
    | _ => exact ⟨rfl, rfl⟩

theorem holdings_dispose (e : Engine ω T) (s : Session (RecordedPool ω T)) :
    ((dispose e.recorded).outcome s).2.holdings =
      { s.holdings with
        jobs := s.holdings.jobs.map fun j =>
          if j.stage = .queued then { j with stage := .cancelled } else j } := by
  simp [dispose, Act.outcome_bind, engineMove, Session.holdings, Pool.holdings, Engine.recorded]

theorem holdings_submit (sql : String) (deadline : Deadline T) (s : Session (RecordedPool ω T)) :
    (∃ r, (submit sql deadline).outcome s = (.error r, s)) ∨
      ∃ s', (submit sql deadline).outcome s = (.ok s.holdings.jobs.length, s') ∧
        s'.holdings =
          { s.holdings with jobs := s.holdings.jobs ++ [⟨sql, deadline, .queued, false⟩] } := by
  unfold submit
  rw [Act.outcome_bind, Act.outcome_outside]
  by_cases hs : s.outside.shutDown = true
  · simp only [hs, if_true]
    exact Or.inl ⟨_, rfl⟩
  · simp only [hs]
    exact Or.inr ⟨_, rfl, rfl⟩

theorem tryConnect_spec (e : Engine ω T) (plan : PoolPlan T) (attempt : Nat)
    (s : Session (RecordedPool ω T)) :
    ∃ result s', (tryConnect e.recorded plan attempt).outcome s = (result, s') ∧
      ((∃ c, result = .ok (.ok c) ∧
          s'.holdings = { s.holdings with ledger := s.holdings.ledger.obtain (.ok c) }) ∨
        ((∃ r, result = .ok (.error r) ∨ result = .error r) ∧ s'.holdings = s.holdings)) := by
  unfold tryConnect
  rw [Act.outcome_bind]
  simp only [engineStep, Act.outcome_step, Engine.recorded]
  cases hc : (e.connect s.outside.engine.1).1 with
  | ok c => exact ⟨_, _, rfl, Or.inl ⟨c, rfl, rfl⟩⟩
  | error r =>
    dsimp only
    split
    · exact ⟨_, _, rfl, Or.inr ⟨⟨r, Or.inl rfl⟩, rfl⟩⟩
    · exact ⟨_, _, rfl, Or.inr ⟨⟨r, Or.inr rfl⟩, rfl⟩⟩

/-! Calls that leave the holdings as they are. -/

def SameHoldings (p q : RecordedPool ω T) : Prop :=
  q.holdings = p.holdings

instance : IsPreorder (RecordedPool ω T) SameHoldings where
  refl _ := rfl
  trans _ _ _ h h' := h'.trans h

section Circuit

variable {e : Engine ω T}

theorem keeps_update (f : Circuit T → Circuit T) :
    ((circuitSlot e.recorded).update f).Follows SameHoldings :=
  fun _ => rfl

theorem keeps_close : (circuitSlot e.recorded).close.Follows SameHoldings :=
  fun _ => rfl

theorem keeps_halfOpen : (circuitSlot e.recorded).halfOpen.Follows SameHoldings :=
  fun _ => rfl

theorem keeps_trip : (circuitSlot e.recorded).trip.Follows SameHoldings :=
  fun _ => rfl

theorem keeps_succeed (state : CircuitState) :
    ((circuitSlot e.recorded).succeed state).Follows SameHoldings := by
  unfold CircuitSlot.succeed
  refine (keeps_update _).bind fun _ => ?_
  split
  · exact keeps_close
  · exact Act.follows_pure ()

theorem keeps_countFailure (r : Raised) :
    ((circuitSlot e.recorded).countFailure r).Follows SameHoldings :=
  fun _ => rfl

variable {α : Type}

theorem failCall_spec (state : CircuitState) (r : Raised) :
    ((circuitSlot e.recorded).failCall state r : Act (RecordedPool ω T) α).Follows SameHoldings ∧
      ((circuitSlot e.recorded).failCall state r : Act (RecordedPool ω T) α).AlwaysRaises := by
  have hrefuse : ∀ message, (do
        (circuitSlot e.recorded).trip
        CircuitSlot.refuse message : Act (RecordedPool ω T) α).Follows SameHoldings ∧
      (do (circuitSlot e.recorded).trip
          CircuitSlot.refuse message : Act (RecordedPool ω T) α).AlwaysRaises :=
    fun message => ⟨keeps_trip.bind fun _ => Act.follows_raise _,
      Act.AlwaysRaises.after _ fun _ => Act.alwaysRaises_raise _⟩
  unfold CircuitSlot.failCall
  constructor
  · refine (keeps_countFailure r).bind fun c => ?_
    split
    · exact (hrefuse _).1
    · split
      · exact (hrefuse _).1
      · exact Act.follows_raise r
  · refine Act.AlwaysRaises.after _ fun c => ?_
    split
    · exact (hrefuse _).2
    · split
      · exact (hrefuse _).2
      · exact Act.alwaysRaises_raise r

/-- What comes after a call in a circuit gives its value or an error, and touches no connection. -/
theorem attempt_spec (state : CircuitState) (a : Act (RecordedPool ω T) α)
    (s : Session (RecordedPool ω T)) :
    (((circuitSlot e.recorded).attempt state a).outcome s).2.holdings =
        (a.outcome s).2.holdings ∧
      ∀ x, (((circuitSlot e.recorded).attempt state a).outcome s).1 = .ok x →
        (a.outcome s).1 = .ok x := by
  have hno : ∀ {b : Act (RecordedPool ω T) α}, b.AlwaysRaises → ∀ s x, (b.outcome s).1 ≠ .ok x := by
    intro b hb s x hx
    obtain ⟨r, hr⟩ := hb s
    simp [hr] at hx
  unfold CircuitSlot.attempt
  rw [Act.outcome_bind, Act.outcome_caught]
  rcases a.outcome s with ⟨r | x, s₁⟩
  · dsimp only
    rw [Act.outcome_bind, Act.outcome_outside]
    dsimp only
    split
    · refine ⟨((keeps_succeed state).bind fun _ => Act.follows_raise r) s₁, fun x hx => absurd hx (hno ?_ s₁ x)⟩
      exact Act.AlwaysRaises.after _ fun _ => Act.alwaysRaises_raise r
    · obtain ⟨hkeeps, hraises⟩ := failCall_spec (e := e) (α := α) state r
      exact ⟨hkeeps s₁, fun x hx => absurd hx (hno hraises s₁ x)⟩
  · dsimp only
    refine ⟨((keeps_succeed state).bind fun _ => Act.follows_pure x) s₁, fun y hy => ?_⟩
    rw [Act.outcome_bind] at hy
    generalize ((circuitSlot e.recorded).succeed state).outcome s₁ = o at hy
    rcases o with ⟨r | ⟨⟩, s₂⟩
    · simp at hy
    · exact hy

/-- A call in a circuit is refused, or made from where the circuit lets it through. -/
theorem circuit_call_spec [Add T] [LT T] [DecidableLT T] (a : Act (RecordedPool ω T) α)
    (s : Session (RecordedPool ω T)) :
    (∃ r s', ((circuitSlot e.recorded).call a).outcome s = (.error r, s') ∧
        s'.holdings = s.holdings) ∨
      ∃ s₁, s₁.holdings = s.holdings ∧
        (((circuitSlot e.recorded).call a).outcome s).2.holdings = (a.outcome s₁).2.holdings ∧
        ∀ x, (((circuitSlot e.recorded).call a).outcome s).1 = .ok x →
          (a.outcome s₁).1 = .ok x := by
  have hcircuit : (circuitSlot e.recorded).circuit.outcome s = (.ok s.outside.circuit, s) := rfl
  unfold CircuitSlot.call
  rw [Act.outcome_bind, hcircuit]
  dsimp only
  rw [Act.outcome_bind, Act.outcome_outside]
  dsimp only
  split
  · split
    · exact Or.inl ⟨_, s, rfl, rfl⟩
    · obtain ⟨hholdings, hok⟩ := attempt_spec (e := e) .halfOpen a
        ((circuitSlot e.recorded).halfOpen.outcome s).2
      exact Or.inr ⟨_, keeps_halfOpen s, hholdings, hok⟩
  · obtain ⟨hholdings, hok⟩ := attempt_spec (e := e) s.outside.circuit.state a s
    exact Or.inr ⟨s, rfl, hholdings, hok⟩

end Circuit

theorem keeps_rowsOf [Sub T] [OfNat T 0] [LT T] [LE T] [DecidableLT T] [DecidableLE T] (e : Engine ω T)
    (size i : Nat) : (rowsOf e.recorded size i).Follows SameHoldings :=
  follows_rowsOf (fun _ _ => rfl) i

end Pool

end QueryGate
