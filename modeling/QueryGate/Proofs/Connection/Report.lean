import QueryGate.Proofs.Connection.JobEnd
import QueryGate.Proofs.Connection.Sharing
/-! What a call tells of a statement that failed. A circuit that stays closed passes the failure on, and the
one that opens with it tells only that it is open. -/

namespace QueryGate

variable {ω T α : Type}

namespace Circuit

def excludes (c : Circuit T) (r : Raised) : Bool :=
  c.excluded.any r.lineage.contains

/-- Whether one failure more opens the circuit: that of a trial, or one too many. -/
def Trips (c : Circuit T) : Prop :=
  c.state ≠ .closed ∨ c.failMax ≤ c.failures + 1

end Circuit

namespace Pool

/-- The end of a call in a circuit, and what the circuit makes of it. -/
inductive Counted (d : Circuit T) :
    Except Raised α × Session (Pool ω T) → Except Raised α × Session (Pool ω T) → Prop
  | passed {result : Except Raised α} {s s' : Session (Pool ω T)} {c : Circuit T}
    (hs : s'.outside = { s.outside with circuit := c }) (hstate : c.state = .closed)
    (hsame : c.excluded = d.excluded) (hcounts : ∀ r, result = .error r → d.excludes r = true ∨ ¬ d.Trips) :
    Counted d (result, s) (result, s')
  | tripped {r : Raised} {message : String} {s s' : Session (Pool ω T)} {c : Circuit T}
    (hs : s'.outside = { s.outside with circuit := c }) (hstate : c.state = .opened)
    (hsame : c.excluded = d.excluded) (hcounts : d.excludes r = false ∧ d.Trips) :
    Counted d (.error r, s) (.error (.fault ⟨.openCircuit, message⟩), s')

section Circuit

variable {e : Engine ω T} {s : Session (Pool ω T)} {d : Circuit T}

theorem trip_counted {r : Raised} (message : String) {s₁ : Session (Pool ω T)}
    (hs₁ : s₁.outside = { s.outside with circuit := d.counted }) (hexcludes : d.excludes r = false) (htrips : d.Trips) :
    Counted d (.error r, s) ((do
      (circuitSlot e).trip
      CircuitSlot.refuse message : Act (Pool ω T) α).outcome s₁) := by
  have htrip : ∃ s₂, (do
      (circuitSlot e).trip
      CircuitSlot.refuse message : Act (Pool ω T) α).outcome s₁ =
        (.error (.fault ⟨.openCircuit, message⟩), s₂) ∧
      s₂.outside = { s₁.outside with
        circuit := { s₁.outside.circuit with state := .opened, openedAt := some (e.now s₁.outside.engine) } } :=
    ⟨_, rfl, rfl⟩
  obtain ⟨s₂, hrun, hs₂⟩ := htrip
  rw [hs₁] at hs₂
  rw [hrun]
  exact .tripped hs₂ rfl rfl ⟨hexcludes, htrips⟩

theorem failCall_counted {r : Raised} (hs : s.outside.circuit = d) (hd : d.state ≠ .opened)
    (hexcludes : d.excludes r = false) :
    Counted d (.error r, s) (((circuitSlot e).failCall d.state r : Act (Pool ω T) α).outcome s) := by
  obtain ⟨s₁, hcount, hs₁⟩ := countFailure_outcome (e := e) r s
  rw [hs] at hs₁
  have hcircuit : s₁.outside.circuit = d.counted := congrArg Pool.circuit hs₁
  unfold CircuitSlot.failCall
  rw [Act.outcome_bind, hcount]
  dsimp only
  cases hstate : d.state with
  | opened => exact absurd hstate hd
  | halfOpen => exact trip_counted _ hs₁ hexcludes (Or.inl (by simp [hstate]))
  | closed =>
    dsimp only
    by_cases hmax : d.failMax ≤ d.failures + 1
    · rw [if_pos (by rw [hcircuit]; exact hmax)]
      exact trip_counted _ hs₁ hexcludes (Or.inr hmax)
    · rw [if_neg (by rw [hcircuit]; exact hmax)]
      refine .passed hs₁ hstate rfl fun _ _ => Or.inr ?_
      rintro (hopen | hmany)
      · exact hopen hstate
      · exact hmax hmany

theorem succeed_closes (hs : s.outside.circuit = d) (hd : d.state ≠ .opened) :
    ∃ s' c, ((circuitSlot e).succeed d.state).outcome s = (.ok (), s') ∧
      s'.outside = { s.outside with circuit := c } ∧ c.state = .closed ∧ c.excluded = d.excluded := by
  subst hs
  unfold CircuitSlot.succeed
  cases hstate : s.outside.circuit.state with
  | opened => exact absurd hstate hd
  | closed => exact ⟨_, _, rfl, rfl, hstate, rfl⟩
  | halfOpen => exact ⟨_, _, rfl, rfl, rfl, rfl⟩

theorem attempt_counted (a : Act (Pool ω T) α) (hs : (a.outcome s).2.outside.circuit = d)
    (hd : d.state ≠ .opened) : Counted d (a.outcome s) (((circuitSlot e).attempt d.state a).outcome s) := by
  unfold CircuitSlot.attempt
  rw [Act.outcome_bind, Act.outcome_caught]
  generalize a.outcome s = o at hs
  obtain ⟨r | x, s₁⟩ := o
  · have hexcluded : ((circuitSlot e).get s₁.outside).excluded.any r.lineage.contains = d.excludes r := by
      rw [← show s₁.outside.circuit = d from hs]
      rfl
    dsimp only
    rw [Act.outcome_bind, Act.outcome_outside]
    dsimp only
    rw [hexcluded]
    cases hcase : d.excludes r with
    | true =>
      obtain ⟨s', c, hsucceed, hs', hclosed, hsame⟩ := succeed_closes (e := e) hs hd
      rw [if_pos rfl, Act.outcome_bind, hsucceed]
      refine .passed hs' hclosed hsame fun r' hr' => Or.inl ?_
      rwa [← Except.error.inj hr']
    | false =>
      rw [if_neg Bool.false_ne_true]
      exact failCall_counted hs hd hcase
  · obtain ⟨s', c, hsucceed, hs', hclosed, hsame⟩ := succeed_closes (e := e) hs hd
    dsimp only
    rw [Act.outcome_bind, hsucceed]
    exact .passed hs' hclosed hsame fun _ h => nomatch h

variable [Add T] [LT T] [DecidableLT T]

/-- A call through a circuit is refused, or ends as the circuit counts it. -/
theorem call_counted (a : Act (Pool ω T) α)
    (hkeeps : ∀ s₁ : Session (Pool ω T),
      s₁.outside = { s.outside with circuit := s.outside.circuit.during } →
        (a.outcome s₁).2.outside.circuit = s.outside.circuit.during) :
    (s.outside.circuit.state = .opened ∧
        ∃ message, ((circuitSlot e).call a).outcome s = (.error (.fault ⟨.openCircuit, message⟩), s)) ∨
      ∃ s₁, s₁.outside = { s.outside with circuit := s.outside.circuit.during } ∧
        Counted s.outside.circuit.during (a.outcome s₁) (((circuitSlot e).call a).outcome s) := by
  have hnow : (circuitSlot e).now s.outside = e.now s.outside.engine := rfl
  have hduring : s.outside.circuit.during.state ≠ .opened := by
    unfold Circuit.during
    dsimp only
    split
    · simp
    · assumption
  unfold CircuitSlot.call
  rw [Act.outcome_bind, circuit_outcome]
  dsimp only
  rw [Act.outcome_bind, Act.outcome_outside]
  dsimp only
  split
  · rename_i hopened
    split
    · exact Or.inl ⟨hopened, _, rfl⟩
    · obtain ⟨s₁, hhalf, hs₁⟩ : ∃ s₁, (circuitSlot e).halfOpen.outcome s = (.ok (), s₁) ∧
          s₁.outside = { s.outside with circuit := s.outside.circuit.during } := by
        rw [Circuit.during_of_opened hopened]
        exact ⟨_, rfl, rfl⟩
      have htrial : s.outside.circuit.during.state = .halfOpen :=
        congrArg Circuit.state (Circuit.during_of_opened hopened)
      have hcounted := attempt_counted (e := e) a (hkeeps s₁ hs₁) hduring
      rw [htrial] at hcounted
      rw [Act.outcome_bind, hhalf]
      exact Or.inr ⟨s₁, hs₁, hcounted⟩
  · rename_i hother
    have hsame : s.outside.circuit.during = s.outside.circuit := by
      rw [Circuit.during, if_neg hother]
    have hcounted := attempt_counted (e := e) a (hkeeps s (by rw [hsame])) hduring
    refine Or.inr ⟨s, by rw [hsame], ?_⟩
    rw [hsame] at hcounted ⊢
    exact hcounted

end Circuit

/-- The failure of a call that finds the circuit open, or opens it. -/
def unavailable : Failure :=
  ⟨.unavailable, "Remote engine unavailable: circuit breaker is open", some .openCircuit⟩

/-- What a call tells of what it caught. -/
def told : Raised → Failure
  | .failure f => f
  | .fault f =>
    if f.kind = .openCircuit then unavailable
    else ⟨.remote, "Failed to execute query: " ++ f.message, some f.kind⟩

/-- What a call gives, from how the opening of the statement ended and where the circuit is afterwards. -/
inductive Tells (e : Engine ω T) (plan : PoolPlan T) [Sub T] [OfNat T 0] [LT T] [LE T] [DecidableLT T]
    [DecidableLE T] (state : CircuitState) : Except Raised Nat → Except Raised (Cursor (Pool ω T)) → Prop
  | cursor (i : Nat) (h : state = .closed) : Tells e plan state (.ok i) (.ok (cursorOf e plan i))
  | own (r : Raised) (h : state = .closed) : Tells e plan state (.error r) (.error (.failure (told r)))
  | tripped (r : Raised) (h : state = .opened) : Tells e plan state (.error r) (.error (.failure unavailable))

section Execute

variable {e : Engine ω T} {s : Session (Pool ω T)}

section

variable [Add T] [Sub T] [OfNat T 0] [LT T] [LE T] [DecidableLT T] [DecidableLE T]

/-- A call that gives faults other names, after a call that may raise them. -/
theorem openGuarded_error (plan : PoolPlan T) (sql : String) (deadline : Deadline T) {r : Raised}
    {s' : Session (Pool ω T)}
    (h : ((circuitSlot e).call (openBounded e plan sql deadline)).outcome s = (.error r, s')) :
    ∃ s'', (openGuarded e plan sql deadline).outcome s = (.error (.failure (told r)), s'') ∧
      s''.outside = s'.outside := by
  unfold openGuarded
  rw [Act.outcome_onFault, h]
  cases r with
  | failure f => exact ⟨s', rfl, rfl⟩
  | fault f =>
    dsimp only
    unfold told
    dsimp only
    split
    · exact ⟨s', rfl, rfl⟩
    · exact ⟨_, rfl, rfl⟩

end

variable [AddCommGroup T] [LinearOrder T]

theorem openBounded_shutDown (plan : PoolPlan T) (sql : String) (deadline : Deadline T)
    (hdown : s.outside.shutDown = true) : (openBounded e plan sql deadline).outcome s =
      (.error (.fault ⟨.runtime, "cannot schedule new futures after shutdown"⟩), s) := by
  have hsubmit : (submit sql deadline).outcome s =
      (.error (.fault ⟨.runtime, "cannot schedule new futures after shutdown"⟩), s) := by
    unfold submit
    rw [Act.outcome_bind, Act.outcome_outside]
    dsimp only
    rw [if_pos hdown]
    rfl
  rw [openBounded_eq, Act.outcome_bind, hsubmit]

theorem openBounded_keeps (he : e.Forward) (plan : PoolPlan T) (sql : String) (deadline : Deadline T)
    (s : Session (Pool ω T)) :
    ((openBounded e plan sql deadline).outcome s).2.outside.circuit = s.outside.circuit ∧
      ((openBounded e plan sql deadline).outcome s).2.outside.shutDown = s.outside.shutDown := by
  cases hdown : s.outside.shutDown with
  | false =>
    obtain ⟨job, hjob⟩ := openBounded_submits he plan sql deadline hdown
    exact ⟨hjob.circuit, hjob.shutDown.trans hdown⟩
  | true =>
    rw [openBounded_shutDown plan sql deadline hdown]
    exact ⟨rfl, hdown⟩

/-- A call either finds the circuit open and does nothing, or opens the statement and tells what came of it. -/
theorem execute_tells (he : e.Forward) (plan : PoolPlan T) (sql label : String) (timeout : T) :
    (s.outside.circuit.state = .opened ∧
        (execute e plan sql label timeout).outcome s = (.error (.failure unavailable), s)) ∨
      ∃ s₁ own s₂ result s', s₁.outside = { s.outside with circuit := s.outside.circuit.during } ∧
        (openBounded e plan sql (.after label timeout (e.now s.outside.engine))).outcome s₁ = (own, s₂) ∧
        (execute e plan sql label timeout).outcome s = (result, s') ∧
        s'.outside = { s₂.outside with circuit := s'.outside.circuit } ∧
        s'.outside.circuit.excluded = s.outside.circuit.excluded ∧
        Tells e plan s'.outside.circuit.state own result ∧
        ∀ r, own = .error r → s.outside.circuit.excludes r = false →
          (s'.outside.circuit.state = .opened ↔ s.outside.circuit.Trips) := by
  have hdeadline := deadlineAfter_outcome (e := e) (s := s) label timeout
  generalize Deadline.after label timeout (e.now s.outside.engine) = deadline at hdeadline ⊢
  have hexecute : (execute e plan sql label timeout).outcome s =
      (cursorOf e plan <$> openGuarded e plan sql deadline).outcome s := by
    unfold execute
    rw [Act.outcome_bind, hdeadline]
    rfl
  rw [hexecute, Act.outcome_map]
  have hkeeps : ∀ s₁ : Session (Pool ω T), s₁.outside = { s.outside with circuit := s.outside.circuit.during } →
      ((openBounded e plan sql deadline).outcome s₁).2.outside.circuit = s.outside.circuit.during := by
    intro s₁ hs₁
    rw [(openBounded_keeps he plan sql deadline s₁).1, hs₁]
  rcases call_counted (e := e) (openBounded e plan sql deadline) hkeeps with ⟨hopened, message, hrefused⟩ |
    ⟨s₁, hs₁, hcounted⟩
  · refine Or.inl ⟨hopened, ?_⟩
    unfold openGuarded
    rw [Act.outcome_onFault, hrefused]
    rfl
  · generalize hown : (openBounded e plan sql deadline).outcome s₁ = o at hcounted
    generalize hcall : ((circuitSlot e).call (openBounded e plan sql deadline)).outcome s = o' at hcounted
    have htrips : s.outside.circuit.during.Trips ↔ s.outside.circuit.Trips := by
      unfold Circuit.Trips Circuit.during
      dsimp only
      split
      · simp [*]
      · rfl
    cases hcounted with
    | @passed own s₂ s' c hs' hclosed hsame hcounts =>
      cases own with
      | ok cursor =>
        have hguarded : (openGuarded e plan sql deadline).outcome s = (.ok cursor, s') := by
          unfold openGuarded
          rw [Act.outcome_onFault, hcall]
        rw [hguarded]
        refine Or.inr ⟨s₁, _, s₂, _, s', hs₁, hown, rfl, ?_, ?_, ?_, fun _ h => nomatch h⟩
        all_goals rw [hs']
        · exact hsame
        · exact .cursor cursor hclosed
      | error r =>
        obtain ⟨s'', hguarded, hs''⟩ := openGuarded_error plan sql deadline hcall
        rw [hguarded]
        refine Or.inr ⟨s₁, _, s₂, _, s'', hs₁, hown, rfl, ?_, ?_, ?_, fun r' hr' hexcludes => ?_⟩
        all_goals rw [hs'', hs']
        · exact hsame
        · exact .own r hclosed
        · obtain rfl := Except.error.inj hr'
          have hfew : ¬ s.outside.circuit.during.Trips :=
            (hcounts r rfl).resolve_left fun h => Bool.false_ne_true (hexcludes.symm.trans h)
          rw [htrips] at hfew
          exact iff_of_false (by simp [hclosed]) hfew
    | @tripped r message s₂ s' c hs' hopened hsame hcounts =>
      obtain ⟨s'', hguarded, hs''⟩ := openGuarded_error plan sql deadline hcall
      rw [hguarded]
      refine Or.inr ⟨s₁, _, s₂, _, s'', hs₁, hown, rfl, ?_, ?_, ?_, fun _ _ _ => ?_⟩
      all_goals rw [hs'', hs']
      · exact hsame
      · exact .tripped r hopened
      · exact iff_of_true hopened (htrips.mp hcounts.2)

/-- A timeout, whoever raised it. -/
def isTimeout : Raised → Bool
  | .failure f => f.kind = .timeout
  | .fault f => f.kind = .timeout

/-- The statement is not at its end and the deadline has passed, or the engine raised a timeout of its own. -/
def OutOfTime (e : Engine ω T) (plan : PoolPlan T) (now : T) (j : Job T) : Prop :=
  (j.stage = .cancelled ∨ j.stage = .running) ∧ j.deadline.expiresAt ≤ now ∨
    ∃ r, j.stage = .failed r ∧ e.Raises plan r ∧ isTimeout r = true

omit [AddCommGroup T] in
theorem not_outOfTime_of_opened {plan : PoolPlan T} {now : T} {j : Job T} {cursor : Nat}
    (h : j.stage = .opened cursor) : ¬ OutOfTime e plan now j := by
  rintro (⟨hunfinished | hunfinished, -⟩ | ⟨r, hfailed, -⟩)
  · exact nomatch h.symm.trans hunfinished
  · exact nomatch h.symm.trans hunfinished
  · exact nomatch h.symm.trans hfailed

omit [AddCommGroup T] in
theorem Ends.told_timeout_iff {plan : PoolPlan T} {now : T} {j : Job T} {r : Raised}
    (h : Ends e plan now j (.error r)) : (told r).kind = .timeout ↔ OutOfTime e plan now j := by
  cases h with
  | timeout hstage hraised hkind =>
    exact iff_of_true rfl (Or.inr ⟨_, hstage, hraised, by simp [isTimeout, hkind]⟩)
  | late hstage htime => exact iff_of_true rfl (Or.inl ⟨hstage, htime⟩)
  | failed hstage hraised hother =>
    have hown : OutOfTime e plan now j ↔ isTimeout r = true := by
      constructor
      · rintro (⟨hunfinished | hunfinished, -⟩ | ⟨r', hr', -, htimeout⟩)
        · exact nomatch hstage.symm.trans hunfinished
        · exact nomatch hstage.symm.trans hunfinished
        · rwa [JobStage.failed.inj (hstage.symm.trans hr')]
      · exact fun htimeout => Or.inr ⟨r, hstage, hraised, htimeout⟩
    rw [hown]
    cases r with
    | failure f => simp [told, isTimeout]
    | fault f =>
      have hkind := hother f rfl
      unfold told isTimeout
      dsimp only
      split
      · simp [unavailable, hkind]
      · simp [hkind]

theorem execute_shutDown (he : e.Forward) (plan : PoolPlan T) (sql label : String) (timeout : T)
    (hdown : s.outside.shutDown = true) :
    ∃ f s', (execute e plan sql label timeout).outcome s = (.error (.failure f), s') ∧ f.kind ≠ .timeout ∧
      s'.outside.jobs = s.outside.jobs := by
  rcases execute_tells (s := s) he plan sql label timeout with ⟨-, hrefused⟩ |
    ⟨s₁, own, s₂, result, s', hs₁, hown, hrun, hs', -, htells, -⟩
  · exact ⟨unavailable, s, hrefused, by decide, rfl⟩
  · rw [openBounded_shutDown plan sql _ (by rw [hs₁]; exact hdown)] at hown
    obtain ⟨rfl, rfl⟩ := Prod.mk.inj hown
    have hjobs : s'.outside.jobs = s.outside.jobs := by rw [hs', hs₁]
    cases htells with
    | own => exact ⟨_, s', hrun, by decide, hjobs⟩
    | tripped => exact ⟨_, s', hrun, by decide, hjobs⟩

variable [IsOrderedAddMonoid T]

/-- A call either finds the circuit open and does nothing, or gives a worker a job and tells how it ended. -/
theorem execute_ends (he : e.Forward) (hwaits : e.Waits) (plan : PoolPlan T) (sql label : String) (timeout : T)
    (hup : s.outside.shutDown = false) :
    (s.outside.circuit.state = .opened ∧
        (execute e plan sql label timeout).outcome s = (.error (.failure unavailable), s)) ∨
      ∃ own j result s', (execute e plan sql label timeout).outcome s = (result, s') ∧
        s'.outside.shutDown = false ∧ s'.outside.circuit.excluded = s.outside.circuit.excluded ∧
        s'.outside.jobs[s.outside.jobs.length]? = some j ∧
        j.deadline = .after label timeout (e.now s.outside.engine) ∧ Ends e plan (e.now s'.outside.engine) j own ∧
        Tells e plan s'.outside.circuit.state own result ∧
        ∀ r, own = .error r → s.outside.circuit.excludes r = false →
          (s'.outside.circuit.state = .opened ↔ s.outside.circuit.Trips) := by
  refine (execute_tells (s := s) he plan sql label timeout).imp_right ?_
  rintro ⟨s₁, own, s₂, result, s', hs₁, hown, hrun, hs', hsame, htells, htrips⟩
  have hup₁ : s₁.outside.shutDown = false := by rw [hs₁]; exact hup
  have hlength : s₁.outside.jobs.length = s.outside.jobs.length := by rw [hs₁]
  have hkept := (openBounded_keeps he plan sql (.after label timeout (e.now s.outside.engine)) s₁).2
  obtain ⟨own', j, s₃, hown', hj, hdeadline, hends⟩ :=
    openBounded_ends hwaits plan sql (.after label timeout (e.now s.outside.engine)) hup₁
  rw [hown] at hown' hkept
  obtain ⟨rfl, rfl⟩ := Prod.mk.inj hown'
  have hjobs : s'.outside.jobs = s₂.outside.jobs := by rw [hs']
  have hnow : e.now s'.outside.engine = e.now s₂.outside.engine := by rw [hs']
  have hshut : s'.outside.shutDown = s₂.outside.shutDown := by rw [hs']
  rw [hlength, ← hjobs] at hj
  rw [← hnow] at hends
  exact ⟨own, j, result, s', hrun, hshut.trans (hkept.trans hup₁), hsame, hj, hdeadline, hends, htells, htrips⟩

/-- A call says that its deadline was exceeded just if its circuit does not open and either the deadline has
passed and the statement is not at its end, or the engine raised a timeout of its own. -/
theorem execute_timeout_iff (he : e.Forward) (hwaits : e.Waits) (plan : PoolPlan T) (sql label : String)
    (timeout : T) (s : Session (Pool ω T)) :
    let o := (execute e plan sql label timeout).outcome s
    (∃ f, o.1 = .error (.failure f) ∧ f.kind = .timeout) ↔
      o.2.outside.circuit.state ≠ .opened ∧
        ∃ j, o.2.outside.jobs[s.outside.jobs.length]? = some j ∧
          j.deadline = .after label timeout (e.now s.outside.engine) ∧
          OutOfTime e plan (e.now o.2.outside.engine) j := by
  intro o
  have htold : ∀ f, (∃ f', (.error (.failure f) : Except Raised (Cursor (Pool ω T))) = .error (.failure f') ∧
      f'.kind = .timeout) ↔ f.kind = .timeout := fun f =>
    ⟨fun ⟨_, hf, hkind⟩ => Raised.failure.inj (Except.error.inj hf) ▸ hkind, fun hkind => ⟨f, rfl, hkind⟩⟩
  cases hdown : s.outside.shutDown with
  | true =>
    obtain ⟨f, s', hrun, hkind, hjobs⟩ := execute_shutDown he plan sql label timeout hdown
    rw [show o = _ from hrun, htold]
    refine iff_of_false hkind ?_
    rintro ⟨-, j, hj, -⟩
    rw [hjobs, List.getElem?_eq_none le_rfl] at hj
    cases hj
  | false =>
    rcases execute_ends he hwaits plan sql label timeout hdown with ⟨hopened, hrefused⟩ |
      ⟨own, j, result, s', hrun, -, -, hj, hdeadline, hends, htells, -⟩
    · rw [show o = _ from hrefused, htold]
      exact iff_of_false (by decide) fun h => h.1 hopened
    · rw [show o = (result, s') from hrun]
      have hjob : (∃ j', s'.outside.jobs[s.outside.jobs.length]? = some j' ∧
          j'.deadline = .after label timeout (e.now s.outside.engine) ∧
          OutOfTime e plan (e.now s'.outside.engine) j') ↔ OutOfTime e plan (e.now s'.outside.engine) j := by
        refine ⟨?_, fun hout => ⟨j, hj, hdeadline, hout⟩⟩
        rintro ⟨j', hj', -, hout⟩
        rwa [Option.some.inj (hj.symm.trans hj')]
      dsimp only
      rw [hjob]
      cases htells with
      | cursor i hclosed =>
        refine iff_of_false (fun ⟨f, hf, _⟩ => nomatch hf) fun h => ?_
        cases hends with
        | opened hstage => exact not_outOfTime_of_opened hstage h.2
      | own r hclosed =>
        rw [htold, hends.told_timeout_iff, hclosed]
        exact (and_iff_right (by simp)).symm
      | tripped r hopened =>
        rw [htold]
        exact iff_of_false (by decide) fun h => h.1 hopened

end Execute

end Pool

/-- An engine none of whose workers ever comes to a job's end. -/
def Engine.hanging : Engine ℤ ℤ :=
  { Engine.unreachable with turn := fun _ => .later true }

/-- An engine whose driver gives up at once, with a timeout of its own. -/
def Engine.impatient : Engine ℤ ℤ :=
  { Engine.unreachable with connect := fun w => (.error (.fault ⟨.timeout, "timed out"⟩), w) }

theorem Pool.execute_timeout_iff_hanging :
    let e := Engine.hanging
    let plan : PoolPlan ℤ := ⟨"h", 1, 0, none, fetchBatchSize⟩
    let s := Session.start (Pool.start 0 (.start "DB_BREAKER" 5 30 []))
    let o := (Pool.execute e plan "SELECT 1" "5" 5).outcome s
    (e.Forward ∧ e.Waits) ∧ (∃ f, o.1 = .error (.failure f) ∧ f.kind = .timeout) ∧
      ∃ j, o.2.outside.jobs[0]? = some j ∧ j.deadline = .after "5" 5 0 ∧
        OutOfTime e plan (e.now o.2.outside.engine) j := by
  intro e plan s o
  have hwaits : e.Waits := fun _ _ _ => le_rfl
  have hforward : e.Forward := ⟨Engine.unreachable_forward.sleep, Engine.unreachable_forward.wait,
    Engine.unreachable_forward.begin, Engine.unreachable_forward.connect, Engine.unreachable_forward.run,
    Engine.unreachable_forward.closeResult, Engine.unreachable_forward.closeConnection⟩
  have htold : ∃ f, o.1 = .error (.failure f) ∧ f.kind = .timeout := ⟨_, rfl, rfl⟩
  obtain ⟨-, j, hj, hdeadline, hout⟩ :=
    (Pool.execute_timeout_iff hforward hwaits plan "SELECT 1" "5" 5 s).mp htold
  exact ⟨⟨hforward, hwaits⟩, htold, j, hj, hdeadline, hout⟩

/-- The driver's own timeout is told as an exceeded deadline at the time at which the call began. -/
theorem Pool.execute_timeout_early :
    let e := Engine.impatient
    let plan : PoolPlan ℤ := ⟨"h", 1, 0, none, fetchBatchSize⟩
    let s := Session.start (Pool.start 0 (.start "DB_BREAKER" 5 30 []))
    let o := (Pool.execute e plan "SELECT 1" "5" 5).outcome s
    (e.connect s.outside.engine).1 = .error (.fault ⟨.timeout, "timed out"⟩) ∧
      o.1 = .error (.failure ⟨.timeout, "Statement exceeded 5s deadline", none⟩) ∧
      e.now o.2.outside.engine = 0 ∧ (0 : ℤ) < (Deadline.after "5" 5 (e.now s.outside.engine)).expiresAt := by
  intro e plan s o
  exact ⟨rfl, rfl, rfl, by decide⟩

section Runs

variable {ι : Type} [DecidableEq ι] [AddCommGroup T] [LinearOrder T] [IsOrderedAddMonoid T]

/-- What a call raises whose job failed: the failure of the job, unless the circuit opens with it. -/
def Pool.Reports (e : Engine ω T) (plan : PoolPlan T) (c : Circuit T) (now : T) (j : Job T) (r : Raised) : Prop :=
  ∃ own, Ends e plan now j (.error own) ∧
    (¬ c.Trips ∧ r = .failure (told own) ∨ c.Trips ∧ r = .failure unavailable)

theorem Pool.execute_fails {e : Engine ω T} {s : Session (Pool ω T)} (he : e.Forward) (hwaits : e.Waits)
    (plan : PoolPlan T) (sql label : String) (timeout : T) (hup : s.outside.shutDown = false)
    (hall : s.outside.circuit.excluded = []) :
    ∃ result s', (execute e plan sql label timeout).outcome s = (result, s') ∧ s'.outside.shutDown = false ∧
      s'.outside.circuit.excluded = [] ∧
      (s.outside.circuit.state = .opened ∧ result = .error (.failure unavailable) ∧ s' = s ∨
        ∃ j, s'.outside.jobs[s.outside.jobs.length]? = some j ∧
          ∀ r, result = .error r → Reports e plan s.outside.circuit (e.now s'.outside.engine) j r) := by
  rcases execute_ends he hwaits plan sql label timeout hup with ⟨hopened, hrefused⟩ |
    ⟨own, j, result, s', hrun, hup', hsame, hj, -, hends, htells, htrips⟩
  · exact ⟨_, s, hrefused, hup, hall, Or.inl ⟨hopened, rfl, rfl⟩⟩
  · refine ⟨result, s', hrun, hup', hsame.trans hall, Or.inr ⟨j, hj, fun r hr => ?_⟩⟩
    cases htells with
    | cursor => cases hr
    | own r' hclosed =>
      obtain rfl := Except.error.inj hr
      have hfew := (htrips r' rfl (by simp [Circuit.excludes, hall])).not.mp (by simp [hclosed])
      exact ⟨r', hends, Or.inl ⟨hfew, rfl⟩⟩
    | tripped r' hopened =>
      obtain rfl := Except.error.inj hr
      have hmany := (htrips r' rfl (by simp [Circuit.excludes, hall])).mp hopened
      exact ⟨r', hends, Or.inr ⟨hmany, rfl⟩⟩

variable {h : Handles ι ω T} {v : Visit ι ω T} {s s' : Session (Fleet ι ω T)} {visits : List (Visit ι ω T)}

/-- A call either found the circuit open and did nothing, or gave a worker a job and reports how it failed. -/
def Visit.IsReported (h : Handles ι ω T) (v : Visit ι ω T) (r : Raised) : Prop :=
  v.submits h = false ∧ v.circuit.state = .opened ∧ v.after h = v.before ∧ r = .failure Pool.unavailable ∨
    v.submits h = true ∧
      ∃ j, ((v.after h).outside.desks v.handle).jobs[(v.before.outside.desks v.handle).jobs.length]? = some j ∧
        Pool.Reports (h.engine v.handle) (h.plan v.handle) v.circuit (v.timeAfter h) j r

/-- Handles of which none was disposed of, and a circuit to which every error counts. -/
structure Fleet.IsUp (f : Fleet ι ω T) : Prop where
  up : ∀ i, (f.desks i).shutDown = false
  excluded : f.circuit.excluded = []

theorem Visit.reports (hwaits : ∀ i, (h.engine i).Waits) (hv : v.before.outside.IsUp) :
    (v.after h).outside.IsUp ∧ ∀ r, (v.outcome h).1 = .error r → v.IsReported h r := by
  obtain ⟨result, s', hrun, hup, hall, hresult⟩ := Pool.execute_fails
    (s := ⟨v.before.outside.pool v.handle, v.before.log, v.before.trace⟩) (h.forward v.handle) (hwaits v.handle)
    (h.plan v.handle) v.sql v.label v.timeout (hv.up v.handle) hv.excluded
  have houtcome : v.outcome h = (result, ⟨v.before.outside.put v.handle s'.outside, s'.log, s'.trace⟩) :=
    Fleet.outcome_through hrun
  have hafter : v.after h = ⟨v.before.outside.put v.handle s'.outside, s'.log, s'.trace⟩ := congrArg Prod.snd houtcome
  refine ⟨⟨fun i => ?_, by rw [hafter]; exact hall⟩, fun r hr => ?_⟩
  · rw [hafter]
    by_cases hsame : i = v.handle
    · subst hsame
      simpa [Fleet.put] using hup
    · simpa [Fleet.put, hsame] using hv.up i
  · rw [houtcome] at hr
    rcases hresult with ⟨hopened, hrefused, rfl⟩ | ⟨j, hj, hreports⟩
    · rw [Fleet.put_pool] at hafter
      refine Or.inl ⟨by rw [submits, hafter]; simp, hopened, hafter, ?_⟩
      exact Except.error.inj (hr.symm.trans hrefused)
    · have hdesk : ((v.after h).outside.desks v.handle).jobs = s'.outside.jobs := by simp [hafter, Fleet.put]
      have hnow : v.timeAfter h = (h.engine v.handle).now s'.outside.engine := by
        rw [timeAfter, hafter, h.now_eq]
        rfl
      refine Or.inr ⟨?_, j, by rw [hdesk]; exact hj, by rw [hnow]; exact hreports r hr⟩
      rw [submits, hdesk, decide_eq_true_eq]
      exact (List.getElem?_eq_some_iff.mp hj).1

/-- Of all the calls of a run, those that fail say that the circuit is open if it was and the workers were
given nothing. Any other reports the failure of the job that it gave to a worker, unless that is the failure
with which the circuit opens. -/
theorem Run.failures_reported (hwaits : ∀ i, (h.engine i).Waits) (hs : s.outside.IsUp) (run : Run h s visits s') :
    ∀ v ∈ visits, ∀ r, (v.outcome h).1 = .error r → v.IsReported h r := by
  induction run with
  | done s => simp
  | elapse s s₁ hcircuit hclock hup _ ih =>
    exact ih ⟨fun i => (hup i).trans (hs.up i), (congrArg Circuit.excluded hcircuit).trans hs.excluded⟩
  | call v _ ih =>
    obtain ⟨hafter, hreports⟩ := Visit.reports hwaits hs
    exact List.forall_mem_cons.mpr ⟨hreports, ih hafter⟩

end Runs

/-- Two handles on engines that can never be reached. -/
def Handles.unreachable : Handles Bool ℤ ℤ where
  engine _ := .unreachable
  plan _ := ⟨"host", 1, 0, none, fetchBatchSize⟩
  clock w := w
  now_eq _ _ := rfl
  forward _ := Engine.unreachable_forward

theorem Run.failures_reported_unreachable :
    let h := Handles.unreachable
    let s : Session (Fleet Bool ℤ ℤ) := .start ⟨0, .start "DB_BREAKER" 2 30 [], fun _ => ⟨[], [], false⟩⟩
    let v₁ : Visit Bool ℤ ℤ := ⟨s, false, "SELECT 1", "60", 60⟩
    let v₂ : Visit Bool ℤ ℤ := ⟨v₁.after h, true, "SELECT 1", "60", 60⟩
    (∀ i, (h.engine i).Waits) ∧ s.outside.IsUp ∧ Run h s [v₁, v₂] (v₂.after h) ∧
      ∀ v ∈ [v₁, v₂], ∀ r, (v.outcome h).1 = .error r → v.IsReported h r := by
  intro h s v₁ v₂
  have hwaits : ∀ i, (h.engine i).Waits := fun _ _ _ _ => le_rfl
  have hup : s.outside.IsUp := ⟨fun _ => rfl, rfl⟩
  have run : Run h s [v₁, v₂] (v₂.after h) := .call v₁ (.call v₂ (.done _))
  exact ⟨hwaits, hup, run, run.failures_reported hwaits hup⟩

/-- The second failure opens the circuit. The call gave its statement to a worker while the circuit was closed,
and reports an open circuit and not that the engine refused the connection. -/
theorem Run.failure_replaced :
    let h := Handles.unreachable
    let s : Session (Fleet Bool ℤ ℤ) := .start ⟨0, .start "DB_BREAKER" 2 30 [], fun _ => ⟨[], [], false⟩⟩
    let v₁ : Visit Bool ℤ ℤ := ⟨s, false, "SELECT 1", "60", 60⟩
    let v₂ : Visit Bool ℤ ℤ := ⟨v₁.after h, false, "SELECT 1", "60", 60⟩
    Run h s [v₁, v₂] (v₂.after h) ∧
      (v₁.submits h = true ∧ (v₁.outcome h).1 =
        .error (.failure ⟨.remote, "Failed to connect to host: connection refused", some .database⟩)) ∧
      v₂.submits h = true ∧ v₂.circuit.state = .closed ∧ (v₂.outcome h).1 = .error (.failure Pool.unavailable) := by
  intro h s v₁ v₂
  have run : Run h s [v₁, v₂] (v₂.after h) := .call v₁ (.call v₂ (.done _))
  exact ⟨run, ⟨by decide +kernel, rfl⟩, by decide +kernel, rfl, rfl⟩

end QueryGate
