import QueryGate.Proofs.Connection.Onward
/-! What a circuit does to a statement and a statement to the circuit. The circuit refuses the statement
and nothing happens, or lets it through and counts how it ends. -/

namespace QueryGate

namespace Circuit

variable {T : Type}

/-- Whether a call is let through at a time. -/
def Admits [Add T] [LE T] (c : Circuit T) (now : T) : Prop :=
  c.state ≠ .opened ∨ ∃ t, c.openedAt = some t ∧ t + c.resetTimeout ≤ now

/-- The circuit while a call goes through it: an open one makes a trial of the call. -/
def during (c : Circuit T) : Circuit T :=
  { c with state := if c.state = .opened then .halfOpen else c.state }

theorem during_of_closed {c : Circuit T} (hc : c.state = .closed) : c.during = c := by
  rw [during, if_neg (by simp [hc])]

theorem during_of_opened {c : Circuit T} (hc : c.state = .opened) :
    c.during = { c with state := .halfOpen } := by
  rw [during, if_pos hc]

def counted (c : Circuit T) : Circuit T :=
  { c with failures := c.failures + 1 }

def afterSuccess (c : Circuit T) : Circuit T :=
  { c with state := .closed, failures := 0 }

/-- One failure more, which opens the circuit if it was a trial or one too many. -/
def afterFailure (c : Circuit T) (now : T) : Circuit T :=
  if c.state = .closed ∧ c.failures + 1 < c.failMax then c.counted
  else { c with state := .opened, failures := c.failures + 1, openedAt := some now }

theorem afterFailure_cases (c : Circuit T) (now : T) :
    (c.state = .closed ∧ c.failures + 1 < c.failMax ∧ c.afterFailure now = c.counted) ∨
      c.afterFailure now =
        { c with state := .opened, failures := c.failures + 1, openedAt := some now } := by
  unfold afterFailure
  split
  · rename_i hfew
    exact Or.inl ⟨hfew.1, hfew.2, rfl⟩
  · exact Or.inr rfl

end Circuit

variable {ω T : Type}

namespace Pool

variable {e : Engine ω T} {α : Type} {s : Session (Pool ω T)}

theorem circuit_outcome : (circuitSlot e).circuit.outcome s = (.ok s.outside.circuit, s) :=
  rfl

theorem countFailure_outcome (r : Raised) (s : Session (Pool ω T)) :
    ∃ s', ((circuitSlot e).countFailure r).outcome s = (.ok s'.outside.circuit, s') ∧
      s'.outside = { s.outside with circuit := s.outside.circuit.counted } :=
  ⟨(((circuitSlot e).countFailure r).outcome s).2, rfl, rfl⟩

/-- The circuit opens, and the call ends in an error that says so. -/
theorem refuse_outcome (message : String) {c : Circuit T} (hs : s.outside.circuit = c.during.counted)
    (hmany : ¬ (c.state = .closed ∧ c.failures + 1 < c.failMax)) :
    ∃ r s', (do
        (circuitSlot e).trip
        CircuitSlot.refuse message : Act (Pool ω T) α).outcome s = (.error r, s') ∧
      s'.outside = { s.outside with circuit := c.afterFailure (e.now s.outside.engine) } := by
  refine ⟨_, _, rfl, ?_⟩
  simp only [circuitSlot, hs, Circuit.afterFailure, if_neg hmany, Circuit.counted, Circuit.during]

/-- A failure in a circuit that let the call through is counted and then raised, or another in its place. -/
theorem failCall_outcome (r : Raised) {c : Circuit T} (hstate : c.state ≠ .halfOpen)
    (hs : s.outside.circuit = c.during) :
    ∃ r' s', ((circuitSlot e).failCall c.during.state r : Act (Pool ω T) α).outcome s = (.error r', s') ∧
      s'.outside = { s.outside with circuit := c.afterFailure (e.now s.outside.engine) } := by
  obtain ⟨s₁, hcount, hs₁⟩ := countFailure_outcome (e := e) r s
  rw [hs] at hs₁
  have hcircuit : s₁.outside.circuit = c.during.counted := congrArg Pool.circuit hs₁
  have hopens : ∀ message, ¬ (c.state = .closed ∧ c.failures + 1 < c.failMax) →
      ∃ r' s', (do
          (circuitSlot e).trip
          CircuitSlot.refuse message : Act (Pool ω T) α).outcome s₁ = (.error r', s') ∧
        s'.outside = { s.outside with circuit := c.afterFailure (e.now s.outside.engine) } := by
    intro message hmany
    obtain ⟨r', s', hrun, hs'⟩ := refuse_outcome (e := e) (α := α) message hcircuit hmany
    rw [hs₁] at hs'
    exact ⟨r', s', hrun, hs'⟩
  unfold CircuitSlot.failCall
  rw [Act.outcome_bind, hcount]
  dsimp only
  cases hc : c.state with
  | closed =>
    rw [Circuit.during_of_closed hc, hc]
    dsimp only
    have hbound : s₁.outside.circuit.failMax ≤ s₁.outside.circuit.failures ↔
        c.failMax ≤ c.failures + 1 := by rw [hcircuit]; rfl
    by_cases hmax : c.failMax ≤ c.failures + 1
    · rw [if_pos (hbound.mpr hmax)]
      exact hopens _ fun h => absurd h.2 (not_lt.mpr hmax)
    · rw [if_neg fun h => hmax (hbound.mp h)]
      refine ⟨r, s₁, rfl, hs₁.trans ?_⟩
      rw [Circuit.afterFailure, if_pos ⟨hc, not_le.mp hmax⟩, Circuit.during_of_closed hc]
  | opened =>
    rw [Circuit.during_of_opened hc]
    exact hopens _ fun h => by simp [hc] at h
  | halfOpen => exact absurd hc hstate

theorem succeed_outcome {c : Circuit T} (hstate : c.state ≠ .halfOpen)
    (hs : s.outside.circuit = c.during) :
    ∃ s', ((circuitSlot e).succeed c.during.state).outcome s = (.ok (), s') ∧
      s'.outside = { s.outside with circuit := c.afterSuccess } := by
  unfold CircuitSlot.succeed
  cases hc : c.state with
  | closed =>
    rw [Circuit.during_of_closed hc] at hs ⊢
    rw [hc]
    refine ⟨_, rfl, ?_⟩
    simp only [circuitSlot, hs, Circuit.afterSuccess, hc]
  | opened =>
    rw [Circuit.during_of_opened hc] at hs ⊢
    refine ⟨_, rfl, ?_⟩
    simp only [circuitSlot, hs, Circuit.afterSuccess]
  | halfOpen => exact absurd hc hstate

/-- How a call through a circuit ends, from how it would end without one. -/
inductive Passed (e : Engine ω T) (c : Circuit T) :
    Except Raised α × Session (Pool ω T) → Except Raised α × Session (Pool ω T) → Prop
  | success (x : α) (s s') : s'.outside = { s.outside with circuit := c.afterSuccess } →
      Passed e c (.ok x, s) (.ok x, s')
  | failure (r r' : Raised) (s s') :
      s'.outside = { s.outside with circuit := c.afterFailure (e.now s.outside.engine) } →
      Passed e c (.error r, s) (.error r', s')

/-- It ends the same way if errors are given other names afterwards. -/
theorem Passed.onFault {c : Circuit T} {o : Except Raised α × Session (Pool ω T)} {a : Act (Pool ω T) α}
    {handler : Fault → Act (Pool ω T) α} (h : Passed e c o (a.outcome s))
    (hhandler : ∀ f s, ∃ r s', (handler f).outcome s = (.error r, s') ∧ s'.outside = s.outside) :
    Passed e c o ((a.onFault handler).outcome s) := by
  rw [Act.outcome_onFault]
  generalize a.outcome s = o' at h
  cases h with
  | success x s₁ s' hs' => exact .success x s₁ s' hs'
  | failure r r' s₁ s' hs' =>
    rcases r' with f | f
    · exact .failure r _ s₁ s' hs'
    · obtain ⟨r'', s'', heq, hs''⟩ := hhandler f s'
      dsimp only
      rw [heq]
      exact .failure r r'' s₁ s'' (hs''.trans hs')

theorem attempt_passed (a : Act (Pool ω T) α) {c : Circuit T} (hall : c.excluded = [])
    (hstate : c.state ≠ .halfOpen) (hs : (a.outcome s).2.outside.circuit = c.during) :
    Passed e c (a.outcome s) (((circuitSlot e).attempt c.during.state a).outcome s) := by
  unfold CircuitSlot.attempt
  rw [Act.outcome_bind, Act.outcome_caught]
  generalize a.outcome s = o at hs
  obtain ⟨r | x, s₁⟩ := o
  · have hcounts : ((circuitSlot e).get s₁.outside).excluded.any r.lineage.contains = false := by
      have hexcluded : ((circuitSlot e).get s₁.outside).excluded = [] :=
        (congrArg Circuit.excluded hs).trans hall
      rw [hexcluded, List.any_nil]
    obtain ⟨r', s', hfail, hs'⟩ := failCall_outcome (e := e) (α := α) r hstate hs
    dsimp only
    rw [Act.outcome_bind, Act.outcome_outside]
    dsimp only
    rw [hcounts, if_neg Bool.false_ne_true, hfail]
    exact .failure r r' s₁ s' hs'
  · obtain ⟨s', hsucceed, hs'⟩ := succeed_outcome (e := e) hstate hs
    dsimp only
    rw [Act.outcome_bind, hsucceed]
    exact .success x s₁ s' hs'

section Time

variable [AddCommGroup T] [LinearOrder T]

theorem circuit_refuses (a : Act (Pool ω T) α) (hlast : s.outside.circuit.openedAt ≠ none)
    (hclosed : ¬ s.outside.circuit.Admits (e.now s.outside.engine)) :
    ((circuitSlot e).call a).outcome s =
      (.error (.fault ⟨.openCircuit, "Timeout not elapsed yet, circuit breaker still open"⟩), s) := by
  obtain ⟨t, ht⟩ := Option.ne_none_iff_exists'.mp hlast
  have hstate : s.outside.circuit.state = .opened := by
    by_contra hother
    exact hclosed (Or.inl hother)
  have hearly : e.now s.outside.engine < t + s.outside.circuit.resetTimeout := by
    by_contra hlate
    exact hclosed (Or.inr ⟨t, ht, not_lt.mp hlate⟩)
  have hnow : (circuitSlot e).now s.outside = e.now s.outside.engine := rfl
  unfold CircuitSlot.call
  rw [Act.outcome_bind, circuit_outcome]
  dsimp only
  rw [Act.outcome_bind, Act.outcome_outside]
  dsimp only
  rw [hstate, ht, hnow]
  simp only [Option.any_some, decide_eq_true_eq, hearly, if_true]
  rfl

theorem circuit_admits (a : Act (Pool ω T) α)
    (hkeeps : ∀ s₁ : Session (Pool ω T),
      s₁.outside = { s.outside with circuit := s.outside.circuit.during } →
        (a.outcome s₁).2.outside.circuit = s.outside.circuit.during)
    (hall : s.outside.circuit.excluded = []) (hstate : s.outside.circuit.state ≠ .halfOpen)
    (hopen : s.outside.circuit.Admits (e.now s.outside.engine)) :
    ∃ s₁, s₁.outside = { s.outside with circuit := s.outside.circuit.during } ∧
      Passed e s.outside.circuit (a.outcome s₁) (((circuitSlot e).call a).outcome s) := by
  have hnow : (circuitSlot e).now s.outside = e.now s.outside.engine := rfl
  unfold CircuitSlot.call
  rw [Act.outcome_bind, circuit_outcome]
  dsimp only
  rw [Act.outcome_bind, Act.outcome_outside]
  dsimp only
  cases hc : s.outside.circuit.state with
  | closed =>
    have hduring := Circuit.during_of_closed hc
    have hs := attempt_passed (e := e) (s := s) a hall hstate (hkeeps s (by rw [hduring]))
    rw [hduring, hc] at hs
    exact ⟨s, by rw [hduring], hs⟩
  | opened =>
    obtain ⟨t, ht, hlate⟩ : ∃ t, s.outside.circuit.openedAt = some t ∧
        t + s.outside.circuit.resetTimeout ≤ e.now s.outside.engine :=
      hopen.resolve_left fun h => h hc
    have htrial : ∃ s₁, (circuitSlot e).halfOpen.outcome s = (.ok (), s₁) ∧
        s₁.outside = { s.outside with circuit := s.outside.circuit.during } := by
      refine ⟨((circuitSlot e).halfOpen.outcome s).2, rfl, ?_⟩
      rw [Circuit.during_of_opened hc]
      rfl
    obtain ⟨s₁, hhalf, hs₁⟩ := htrial
    have hduring : s.outside.circuit.during.state = .halfOpen :=
      congrArg Circuit.state (Circuit.during_of_opened hc)
    have hs := attempt_passed (e := e) (s := s₁) a hall hstate (hkeeps s₁ hs₁)
    rw [hduring] at hs
    refine ⟨s₁, hs₁, ?_⟩
    simp only [ht, hnow, Option.any_some, decide_eq_true_eq, not_lt.mpr hlate, if_false]
    rw [Act.outcome_bind, hhalf]
    exact hs
  | halfOpen => exact absurd hc hstate

variable (plan : PoolPlan T) (sql label : String) (timeout : T)

omit [LinearOrder T] in
theorem deadlineAfter_outcome : (deadlineAfter e label timeout).outcome s =
    (.ok (.after label timeout (e.now s.outside.engine)), s) :=
  rfl

/-- A statement that the circuit refuses leaves everything as it was. -/
theorem execute_refused (hlast : s.outside.circuit.openedAt ≠ none)
    (hclosed : ¬ s.outside.circuit.Admits (e.now s.outside.engine)) :
    (execute e plan sql label timeout).outcome s =
      (.error (.failure ⟨.unavailable, "Remote engine unavailable: circuit breaker is open",
        some .openCircuit⟩), s) := by
  unfold execute openGuarded
  rw [Act.outcome_bind, deadlineAfter_outcome]
  dsimp only
  rw [Act.outcome_bind, Act.outcome_onFault, circuit_refuses _ hlast hclosed]
  rfl

/-- A statement that the circuit lets through goes to the workers, and the circuit counts how it ends. -/
theorem execute_admitted (he : e.Forward) (hup : s.outside.shutDown = false)
    (hall : s.outside.circuit.excluded = []) (hstate : s.outside.circuit.state ≠ .halfOpen)
    (hopen : s.outside.circuit.Admits (e.now s.outside.engine)) :
    ∃ result s', (execute e plan sql label timeout).outcome s = (result, s') ∧
      s'.outside.jobs.length = s.outside.jobs.length + 1 ∧ s'.outside.shutDown = false ∧
      e.now s.outside.engine ≤ e.now s'.outside.engine ∧
      ((∃ cursor, result = .ok cursor ∧ s'.outside.circuit = s.outside.circuit.afterSuccess) ∨
        ∃ r, result = .error r ∧
          s'.outside.circuit = s.outside.circuit.afterFailure (e.now s'.outside.engine)) := by
  have hdeadline := deadlineAfter_outcome (e := e) (s := s) label timeout
  generalize Deadline.after label timeout (e.now s.outside.engine) = deadline at hdeadline
  have hopened : ∀ s₁ : Session (Pool ω T),
      s₁.outside = { s.outside with circuit := s.outside.circuit.during } →
        ∃ job, Onward e { s₁.outside with jobs := s.outside.jobs ++ [job] }
          ((openBounded e plan sql deadline).outcome s₁).2.outside := by
    intro s₁ hs₁
    have hup₁ : s₁.outside.shutDown = false := by rw [hs₁]; exact hup
    obtain ⟨job, hjob⟩ := openBounded_submits he plan sql deadline hup₁
    exact ⟨job, by rw [hs₁] at hjob ⊢; exact hjob⟩
  obtain ⟨s₁, hs₁, hpassed⟩ := circuit_admits (e := e) (openBounded e plan sql deadline)
    (fun s₁ hs₁ => by
      obtain ⟨job, hjob⟩ := hopened s₁ hs₁
      rw [hjob.circuit, hs₁]) hall hstate hopen
  obtain ⟨job, hjob⟩ := hopened s₁ hs₁
  rw [hs₁] at hjob
  have hlength := hjob.jobs.trans List.length_append
  have hclock := hjob.clock
  have hshut := hjob.shutDown.trans hup
  have hguarded : Passed e s.outside.circuit ((openBounded e plan sql deadline).outcome s₁)
      ((openGuarded e plan sql deadline).outcome s) := by
    refine hpassed.onFault fun f s => ?_
    split
    · exact ⟨_, s, rfl, rfl⟩
    · exact ⟨_, _, rfl, rfl⟩
  unfold execute
  rw [Act.outcome_bind, hdeadline]
  dsimp only
  rw [Act.outcome_bind]
  generalize (openBounded e plan sql deadline).outcome s₁ = o at hguarded hlength hclock hshut
  generalize (openGuarded e plan sql deadline).outcome s = o' at hguarded
  cases hguarded with
  | success x s₂ s' hs' =>
    refine ⟨_, s', rfl, ?_⟩
    rw [hs']
    exact ⟨hlength, hshut, hclock, Or.inl ⟨_, rfl, rfl⟩⟩
  | failure r r' s₂ s' hs' =>
    refine ⟨_, s', rfl, ?_⟩
    rw [hs']
    exact ⟨hlength, hshut, hclock, Or.inr ⟨_, rfl, rfl⟩⟩

end Time

end Pool

end QueryGate
