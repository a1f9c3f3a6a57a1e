import Mathlib.Algebra.Order.Group.Int
import Mathlib.Algebra.Order.Monoid.Defs
import Mathlib.Logic.Function.Basic
import QueryGate.Proofs.Connection.Admission
/-! Handles that share a circuit. A call keeps the circuit to itself until it ends, so the calls of all the
handles come one after the other, and between two of them anything may happen but to the circuit. -/

namespace QueryGate

/-- What a pool has for itself. -/
structure Desk (T : Type) where
  jobs : List (Job T)
  cursors : List (OpenCursor T)
  shutDown : Bool

/-- The pools of several handles, with one circuit and one outside. -/
structure Fleet (ι ω T : Type) where
  engine : ω
  circuit : Circuit T
  desks : ι → Desk T

variable {ι ω T α : Type}

namespace Fleet

def pool (f : Fleet ι ω T) (i : ι) : Pool ω T :=
  ⟨f.engine, f.circuit, (f.desks i).jobs, (f.desks i).cursors, (f.desks i).shutDown⟩

variable [DecidableEq ι]

def put (f : Fleet ι ω T) (i : ι) (p : Pool ω T) : Fleet ι ω T :=
  ⟨p.engine, p.circuit, Function.update f.desks i ⟨p.jobs, p.cursors, p.shutDown⟩⟩

theorem put_pool (f : Fleet ι ω T) (i : ι) : f.put i (f.pool i) = f := by
  simp [put, pool]

/-- A call of the pool of one handle. -/
def through (i : ι) (a : Act (Pool ω T) α) : Act (Fleet ι ω T) α :=
  ExceptT.mk fun s =>
    let o := a.outcome ⟨s.outside.pool i, s.log, s.trace⟩
    (o.1, ⟨s.outside.put i o.2.outside, o.2.log, o.2.trace⟩)

theorem outcome_through {i : ι} {a : Act (Pool ω T) α} {s : Session (Fleet ι ω T)}
    {result : Except Raised α} {s' : Session (Pool ω T)}
    (h : a.outcome ⟨s.outside.pool i, s.log, s.trace⟩ = (result, s')) :
    (through i a).outcome s = (result, ⟨s.outside.put i s'.outside, s'.log, s'.trace⟩) := by
  change ((a.outcome ⟨s.outside.pool i, s.log, s.trace⟩).1, _) = _
  rw [h]

end Fleet

variable [AddCommGroup T] [LinearOrder T]

/-- Handles whose engines go by one clock. -/
structure Handles (ι ω T : Type) [AddCommGroup T] [LinearOrder T] where
  engine : ι → Engine ω T
  plan : ι → PoolPlan T
  clock : ω → T
  now_eq : ∀ i w, (engine i).now w = clock w
  forward : ∀ i, (engine i).Forward

/-- A statement that a handle is asked to open. -/
structure Visit (ι ω T : Type) where
  before : Session (Fleet ι ω T)
  handle : ι
  sql : String
  label : String
  timeout : T

namespace Visit

variable [DecidableEq ι] (h : Handles ι ω T) (v : Visit ι ω T)

def outcome : Except Raised (Cursor (Pool ω T)) × Session (Fleet ι ω T) :=
  (Fleet.through v.handle
    (Pool.execute (h.engine v.handle) (h.plan v.handle) v.sql v.label v.timeout)).outcome v.before

def after : Session (Fleet ι ω T) :=
  (v.outcome h).2

omit [DecidableEq ι] [AddCommGroup T] [LinearOrder T] in
def circuit : Circuit T :=
  v.before.outside.circuit

def circuitAfter : Circuit T :=
  (v.after h).outside.circuit

def time : T :=
  h.clock v.before.outside.engine

def timeAfter : T :=
  h.clock (v.after h).outside.engine

/-- Whether the workers of the handle were given a job. -/
def submits : Bool :=
  decide ((v.before.outside.desks v.handle).jobs.length < ((v.after h).outside.desks v.handle).jobs.length)

/-- What a circuit does with one call. -/
structure IsGuarded : Prop where
  submits_iff : v.submits h = true ↔
    v.circuit.state ≠ .opened ∨
      ∃ t, v.circuit.openedAt = some t ∧ t + v.circuit.resetTimeout ≤ v.time h
  refused : v.submits h = false → v.outcome h =
    (.error (.failure ⟨.unavailable, "Remote engine unavailable: circuit breaker is open",
      some .openCircuit⟩), v.before)
  returned : ∀ cursor, (v.outcome h).1 = .ok cursor →
    (v.circuitAfter h).state = .closed ∧ (v.circuitAfter h).failures = 0
  /-- A failure is counted, or the circuit opens at that time. -/
  failed : ∀ r, v.submits h = true → (v.outcome h).1 = .error r →
    (v.circuitAfter h).failures = v.circuit.failures + 1 ∧
      ((v.circuitAfter h).state = .closed ∧ v.circuit.failures + 1 < v.circuit.failMax ∨
        (v.circuitAfter h).state = .opened ∧ (v.circuitAfter h).openedAt = some (v.timeAfter h))

end Visit

/-- Calls one after the other. Between them time goes by, rows are read and late jobs come to their end. -/
inductive Run [DecidableEq ι] (h : Handles ι ω T) :
    Session (Fleet ι ω T) → List (Visit ι ω T) → Session (Fleet ι ω T) → Prop
  | done (s) : Run h s [] s
  | elapse (s s₁ : Session (Fleet ι ω T)) {visits s'} : s₁.outside.circuit = s.outside.circuit →
      h.clock s.outside.engine ≤ h.clock s₁.outside.engine →
      (∀ i, (s₁.outside.desks i).shutDown = (s.outside.desks i).shutDown) →
      Run h s₁ visits s' → Run h s visits s'
  | call (v : Visit ι ω T) {visits s'} : Run h (v.after h) visits s' → Run h v.before (v :: visits) s'

/-- Handles of which none was disposed of, and their circuit between two calls. -/
structure Settled (h : Handles ι ω T) (failMax : Nat) (reset : T) (f : Fleet ι ω T) : Prop where
  up : ∀ i, (f.desks i).shutDown = false
  bound : f.circuit.failMax = failMax
  pause : f.circuit.resetTimeout = reset
  excluded : f.circuit.excluded = []
  state : f.circuit.state = .closed ∧ f.circuit.failures < failMax ∨
    f.circuit.state = .opened ∧ ∃ t, f.circuit.openedAt = some t ∧ t ≤ h.clock f.engine

variable {h : Handles ι ω T} {failMax : Nat} {reset : T} {v : Visit ι ω T}

theorem Settled.not_halfOpen {f : Fleet ι ω T} (hf : Settled h failMax reset f) :
    f.circuit.state ≠ .halfOpen := by
  rcases hf.state with ⟨hstate, -⟩ | ⟨hstate, -⟩ <;> simp [hstate]

theorem Settled.next {f f' : Fleet ι ω T} (hf : Settled h failMax reset f)
    (hup : ∀ i, (f'.desks i).shutDown = false) (state : CircuitState) (failures : Nat) (openedAt : Option T)
    (hcircuit : f'.circuit = { f.circuit with state, failures, openedAt })
    (hstate : state = .closed ∧ failures < failMax ∨
      state = .opened ∧ ∃ t, openedAt = some t ∧ t ≤ h.clock f'.engine) : Settled h failMax reset f' := by
  refine ⟨hup, ?_, ?_, ?_, ?_⟩
  all_goals rw [hcircuit]
  · exact hf.bound
  · exact hf.pause
  · exact hf.excluded
  · exact hstate

theorem Settled.elapse {f f' : Fleet ι ω T} (hf : Settled h failMax reset f)
    (hcircuit : f'.circuit = f.circuit) (hclock : h.clock f.engine ≤ h.clock f'.engine)
    (hup : ∀ i, (f'.desks i).shutDown = (f.desks i).shutDown) : Settled h failMax reset f' := by
  refine hf.next (fun i => (hup i).trans (hf.up i)) _ _ _ hcircuit ?_
  rcases hf.state with hclosed | ⟨hopened, t, ht, hle⟩
  · exact Or.inl hclosed
  · exact Or.inr ⟨hopened, t, ht, hle.trans hclock⟩

namespace Visit

variable [DecidableEq ι]

theorem refused_of_settled (hv : Settled h failMax reset v.before.outside)
    (hclosed : ¬ v.circuit.Admits (v.time h)) :
    v.outcome h = (.error (.failure ⟨.unavailable, "Remote engine unavailable: circuit breaker is open",
      some .openCircuit⟩), v.before) := by
  have hopened : v.circuit.state = .opened := by
    by_contra hother
    exact hclosed (Or.inl hother)
  have hlast : v.circuit.openedAt ≠ none := by
    rcases hv.state with ⟨hstate, -⟩ | ⟨-, t, ht, -⟩
    · exact absurd (hstate.symm.trans hopened) (by decide)
    · exact fun hnone => Option.some_ne_none t (ht.symm.trans hnone)
  have htime : v.time h = (h.engine v.handle).now v.before.outside.engine := (h.now_eq ..).symm
  rw [htime] at hclosed
  have hrefused := Pool.execute_refused (e := h.engine v.handle)
    (s := ⟨v.before.outside.pool v.handle, v.before.log, v.before.trace⟩) (h.plan v.handle) v.sql v.label
    v.timeout hlast hclosed
  unfold outcome
  rw [Fleet.outcome_through hrefused, Fleet.put_pool]

theorem submits_of_admits (hv : Settled h failMax reset v.before.outside)
    (hopen : v.circuit.Admits (v.time h)) :
    v.submits h = true ∧ (∀ i, ((v.after h).outside.desks i).shutDown = false) ∧
      v.time h ≤ v.timeAfter h ∧
      ((∃ cursor, (v.outcome h).1 = .ok cursor ∧ v.circuitAfter h = v.circuit.afterSuccess) ∨
        ∃ r, (v.outcome h).1 = .error r ∧ v.circuitAfter h = v.circuit.afterFailure (v.timeAfter h)) := by
  have htime : v.time h = (h.engine v.handle).now v.before.outside.engine := (h.now_eq ..).symm
  rw [htime] at hopen
  obtain ⟨result, s', hrun, hjobs, hshut, hclock, hcircuit⟩ := Pool.execute_admitted
    (s := ⟨v.before.outside.pool v.handle, v.before.log, v.before.trace⟩) (h.plan v.handle) v.sql v.label
    v.timeout (h.forward v.handle) (hv.up v.handle) hv.excluded hv.not_halfOpen hopen
  have houtcome : v.outcome h = (result, ⟨v.before.outside.put v.handle s'.outside, s'.log, s'.trace⟩) :=
    Fleet.outcome_through hrun
  have hdesk : ((v.after h).outside.desks v.handle).jobs = s'.outside.jobs := by
    simp [after, houtcome, Fleet.put]
  have hafter : v.timeAfter h = (h.engine v.handle).now s'.outside.engine := by
    rw [h.now_eq, timeAfter, after, houtcome]
    rfl
  refine ⟨?_, fun i => ?_, ?_, ?_⟩
  · rw [submits, hdesk, hjobs, decide_eq_true_eq]
    exact Nat.lt_succ_self _
  · have hi : (v.after h).outside.desks i = Function.update v.before.outside.desks v.handle
        ⟨s'.outside.jobs, s'.outside.cursors, s'.outside.shutDown⟩ i := by
      rw [after, houtcome]
      rfl
    rw [hi]
    by_cases hsame : i = v.handle
    · subst hsame
      rw [Function.update_self]
      exact hshut
    · rw [Function.update_of_ne hsame]
      exact hv.up i
  · rw [htime, hafter]
    exact hclock
  · rw [hafter, circuitAfter, after, houtcome]
    exact hcircuit

theorem isGuarded_of_settled (hv : Settled h failMax reset v.before.outside) : v.IsGuarded h := by
  by_cases hadmits : v.circuit.Admits (v.time h)
  · obtain ⟨hsubmits, -, -, hresult⟩ := submits_of_admits hv hadmits
    refine ⟨iff_of_true hsubmits hadmits, fun hnone => absurd (hsubmits.symm.trans hnone) (by decide),
      fun cursor hcursor => ?_, fun r _ hr => ?_⟩
    · rcases hresult with ⟨_, -, hcircuit⟩ | ⟨r, hr, -⟩
      · rw [hcircuit]
        exact ⟨rfl, rfl⟩
      · rw [hr] at hcursor
        cases hcursor
    · rcases hresult with ⟨cursor, hcursor, -⟩ | ⟨_, -, hcircuit⟩
      · rw [hcursor] at hr
        cases hr
      · rw [hcircuit]
        rcases v.circuit.afterFailure_cases (v.timeAfter h) with ⟨hclosed, hfew, heq⟩ | heq
        · rw [heq]
          exact ⟨rfl, Or.inl ⟨hclosed, hfew⟩⟩
        · rw [heq]
          exact ⟨rfl, Or.inr ⟨rfl, rfl⟩⟩
  · have hrefused := refused_of_settled hv hadmits
    have hnone : v.submits h = false := by
      rw [submits, after, hrefused]
      simp
    refine ⟨iff_of_false (by simp [hnone]) hadmits, fun _ => hrefused, fun cursor hcursor => ?_,
      fun r hsubmits _ => absurd (hnone.symm.trans hsubmits) (by decide)⟩
    rw [hrefused] at hcursor
    cases hcursor

theorem settled_after (hmax : 1 ≤ failMax) (hv : Settled h failMax reset v.before.outside) :
    Settled h failMax reset (v.after h).outside := by
  by_cases hadmits : v.circuit.Admits (v.time h)
  · obtain ⟨-, hup, -, hresult⟩ := submits_of_admits hv hadmits
    rcases hresult with ⟨_, -, hcircuit⟩ | ⟨_, -, hcircuit⟩
    · exact hv.next hup .closed 0 v.circuit.openedAt hcircuit (Or.inl ⟨rfl, hmax⟩)
    · rcases v.circuit.afterFailure_cases (v.timeAfter h) with ⟨hclosed, hfew, heq⟩ | heq
      · exact hv.next hup v.circuit.state _ v.circuit.openedAt (hcircuit.trans heq)
          (Or.inl ⟨hclosed, hfew.trans_eq hv.bound⟩)
      · exact hv.next hup .opened _ (some (v.timeAfter h)) (hcircuit.trans heq)
          (Or.inr ⟨rfl, v.timeAfter h, rfl, le_rfl⟩)
  · rw [after, refused_of_settled hv hadmits]
    exact hv

end Visit

namespace Run

variable [DecidableEq ι] {s s' : Session (Fleet ι ω T)} {visits : List (Visit ι ω T)}

theorem settled (run : Run h s visits s') (hmax : 1 ≤ failMax) (hs : Settled h failMax reset s.outside) :
    Settled h failMax reset s'.outside ∧ ∀ v ∈ visits, Settled h failMax reset v.before.outside := by
  induction run with
  | done s => exact ⟨hs, by simp⟩
  | elapse s s₁ hcircuit hclock hup _ ih => exact ih (hs.elapse hcircuit hclock hup)
  | call v _ ih =>
    obtain ⟨hend, hvisits⟩ := ih (Visit.settled_after hmax hs)
    exact ⟨hend, List.forall_mem_cons.mpr ⟨hs, hvisits⟩⟩

theorem split {early late : List (Visit ι ω T)} (run : Run h s visits s') (heq : visits = early ++ late) :
    ∃ m, Run h s early m ∧ Run h m late s' := by
  induction run generalizing early with
  | done s =>
    obtain ⟨rfl, rfl⟩ := List.append_eq_nil_iff.mp heq.symm
    exact ⟨s, .done s, .done s⟩
  | elapse s s₁ hcircuit hclock hup _ ih =>
    obtain ⟨m, hearly, hlate⟩ := ih heq
    exact ⟨m, .elapse s s₁ hcircuit hclock hup hearly, hlate⟩
  | call v run ih =>
    cases early with
    | nil =>
      obtain rfl : _ = late := heq
      exact ⟨v.before, .done v.before, .call v run⟩
    | cons first early =>
      obtain ⟨rfl, hrest⟩ := List.cons.inj heq
      obtain ⟨m, hearly, hlate⟩ := ih hrest
      exact ⟨m, .call v hearly, hlate⟩

end Run

/-- Calls that find the circuit open, the trials among them no closer to each other than its timeout. -/
structure SpacedTrials [DecidableEq ι] (h : Handles ι ω T) (reset openedAt : T)
    (visits : List (Visit ι ω T)) : Prop where
  opened : ∀ v ∈ visits, v.circuit.state = .opened
  first : ∀ v ∈ visits.head?, v.circuit.openedAt = some openedAt
  spaced : ∀ early v late, visits = early ++ v :: late →
    openedAt + (early ++ [v]).countP (Visit.submits h) • reset ≤ v.time h

namespace SpacedTrials

variable [DecidableEq ι] {openedAt : T} {visits : List (Visit ι ω T)}

theorem refused (hv : v.submits h = false) (hstate : v.circuit.state = .opened)
    (hopenedAt : v.circuit.openedAt = some openedAt) (hle : openedAt ≤ v.time h)
    (hrest : SpacedTrials h reset openedAt visits) : SpacedTrials h reset openedAt (v :: visits) where
  opened := List.forall_mem_cons.mpr ⟨hstate, hrest.opened⟩
  first := by simpa using hopenedAt
  spaced early w late heq := by
    cases early with
    | nil =>
      obtain ⟨rfl, -⟩ := List.cons.inj heq
      simpa [hv] using hle
    | cons first early =>
      obtain ⟨rfl, hlater⟩ := List.cons.inj heq
      simpa [List.countP_cons, hv] using hrest.spaced early w late hlater

variable [IsOrderedAddMonoid T]

theorem tried {reopenedAt : T} (hv : v.submits h = true) (hstate : v.circuit.state = .opened)
    (hopenedAt : v.circuit.openedAt = some openedAt) (hwaited : openedAt + reset ≤ v.time h)
    (hle : v.time h ≤ reopenedAt) (hrest : SpacedTrials h reset reopenedAt visits) :
    SpacedTrials h reset openedAt (v :: visits) where
  opened := List.forall_mem_cons.mpr ⟨hstate, hrest.opened⟩
  first := by simpa using hopenedAt
  spaced early w late heq := by
    cases early with
    | nil =>
      obtain ⟨rfl, -⟩ := List.cons.inj heq
      simpa [hv, one_nsmul] using hwaited
    | cons first early =>
      obtain ⟨rfl, hlater⟩ := List.cons.inj heq
      have hcount : (v :: early ++ [w]).countP (Visit.submits h) = (early ++ [w]).countP (Visit.submits h) + 1 := by
        rw [List.cons_append, List.countP_cons_of_pos hv]
      calc openedAt + (v :: early ++ [w]).countP (Visit.submits h) • reset
          = openedAt + reset + (early ++ [w]).countP (Visit.submits h) • reset := by
            rw [hcount, add_nsmul, one_nsmul, add_assoc, add_comm reset]
        _ ≤ reopenedAt + (early ++ [w]).countP (Visit.submits h) • reset := by
            gcongr
            exact hwaited.trans hle
        _ ≤ w.time h := hrest.spaced early w late hlater

end SpacedTrials

section Stretch

variable [DecidableEq ι] [IsOrderedAddMonoid T] {s s' : Session (Fleet ι ω T)}
  {visits : List (Visit ι ω T)}

/-- With the circuit open, calls that bring no cursor leave it open. -/
theorem Run.spacedTrials (run : Run h s visits s') (hmax : 1 ≤ failMax)
    (hs : Settled h failMax reset s.outside) {openedAt : T} (hstate : s.outside.circuit.state = .opened)
    (hopenedAt : s.outside.circuit.openedAt = some openedAt)
    (hnone : ∀ v ∈ visits, ∀ cursor, (v.outcome h).1 ≠ .ok cursor) :
    SpacedTrials h reset openedAt visits := by
  induction run generalizing openedAt with
  | done s => exact ⟨by simp, by simp, by simp⟩
  | elapse s s₁ hcircuit hclock hup _ ih =>
    rw [← hcircuit] at hstate hopenedAt
    exact ih (hs.elapse hcircuit hclock hup) hstate hopenedAt hnone
  | call v _ ih =>
    obtain ⟨hv, hrest⟩ := List.forall_mem_cons.mp hnone
    have hafter := Visit.settled_after hmax hs
    by_cases hadmits : v.circuit.Admits (v.time h)
    · obtain ⟨hsubmits, -, hclock, hresult⟩ := Visit.submits_of_admits hs hadmits
      obtain ⟨r, -, hcircuit⟩ := hresult.resolve_left fun ⟨cursor, hcursor, _⟩ => hv cursor hcursor
      have hfailed : v.circuitAfter h =
          { v.circuit with state := .opened, failures := v.circuit.failures + 1, openedAt := some (v.timeAfter h) } := by
        rcases v.circuit.afterFailure_cases (v.timeAfter h) with ⟨hclosed, -, -⟩ | heq
        · exact absurd (hclosed.symm.trans hstate) (by decide)
        · exact hcircuit.trans heq
      have hwaited : openedAt + reset ≤ v.time h := by
        obtain ⟨t, ht, hwaited⟩ := hadmits.resolve_left fun h => h hstate
        obtain rfl : t = openedAt := Option.some.inj (ht.symm.trans hopenedAt)
        exact hs.pause ▸ hwaited
      exact .tried hsubmits hstate hopenedAt hwaited hclock
        (ih hafter (congrArg Circuit.state hfailed) (congrArg Circuit.openedAt hfailed) hrest)
    · have hrefused := Visit.refused_of_settled hs hadmits
      have hsame : v.after h = v.before := congrArg Prod.snd hrefused
      have hsubmits : v.submits h = false := by
        rw [Visit.submits, hsame]
        simp
      have hle : openedAt ≤ v.time h := by
        rcases hs.state with ⟨hclosed, -⟩ | ⟨-, t, ht, hle⟩
        · exact absurd (hclosed.symm.trans hstate) (by decide)
        · obtain rfl : t = openedAt := Option.some.inj (ht.symm.trans hopenedAt)
          exact hle
      rw [hsame] at ih
      exact .refused hsubmits hstate hopenedAt hle (ih hs hstate hopenedAt hrest)

/-- Calls that bring no cursor: so many as may fail, and then trials. -/
theorem Run.failures_then_trials (run : Run h s visits s') (hmax : 1 ≤ failMax)
    (hs : Settled h failMax reset s.outside)
    (hnone : ∀ v ∈ visits, ∀ cursor, (v.outcome h).1 ≠ .ok cursor) :
    ∃ failing trials openedAt, visits = failing ++ trials ∧
      (∀ v ∈ failing, v.circuit.state = .closed) ∧
      (failing = [] ∨ s.outside.circuit.failures + failing.countP (Visit.submits h) ≤ failMax) ∧
      SpacedTrials h reset openedAt trials := by
  induction run with
  | done s =>
    exact ⟨[], [], 0, rfl, by simp, Or.inl rfl, ⟨by simp, by simp, by simp⟩⟩
  | elapse s s₁ hcircuit hclock hup _ ih =>
    rw [← hcircuit]
    exact ih (hs.elapse hcircuit hclock hup) hnone
  | call v run ih =>
    obtain ⟨hv, hrest⟩ := List.forall_mem_cons.mp hnone
    have hafter := Visit.settled_after hmax hs
    rcases hs.state with ⟨hclosed, hfew⟩ | ⟨hopened, t, ht, -⟩
    · have hclosed : v.circuit.state = .closed := hclosed
      have hadmits : v.circuit.Admits (v.time h) := Or.inl (by simp [hclosed])
      obtain ⟨hsubmits, -, -, hresult⟩ := Visit.submits_of_admits hs hadmits
      obtain ⟨r, -, hcircuit⟩ := hresult.resolve_left fun ⟨cursor, hcursor, _⟩ => hv cursor hcursor
      rcases v.circuit.afterFailure_cases (v.timeAfter h) with ⟨-, -, heq⟩ | heq
      · have hcounted : v.circuitAfter h = v.circuit.counted := hcircuit.trans heq
        obtain ⟨failing, trials, openedAt, rfl, hfailing, hbound, htrials⟩ := ih hafter hrest
        refine ⟨v :: failing, trials, openedAt, rfl, List.forall_mem_cons.mpr ⟨hclosed, hfailing⟩,
          Or.inr ?_, htrials⟩
        have hfailures : (v.after h).outside.circuit.failures = v.circuit.failures + 1 :=
          congrArg Circuit.failures hcounted
        rw [hfailures] at hbound
        rw [List.countP_cons_of_pos hsubmits]
        change v.circuit.failures + _ ≤ _
        rcases hbound with rfl | hbound
        · exact hfew
        · omega
      · have hopened : v.circuitAfter h = _ := hcircuit.trans heq
        refine ⟨[v], _, v.timeAfter h, rfl, by simpa using hclosed, Or.inr ?_,
          run.spacedTrials hmax hafter (congrArg Circuit.state hopened)
            (congrArg Circuit.openedAt hopened) hrest⟩
        rw [List.countP_cons_of_pos hsubmits]
        exact hfew
    · exact ⟨[], _, t, rfl, by simp, Or.inl rfl,
        (Run.call v run).spacedTrials hmax hs hopened ht hnone⟩

end Stretch

/-- Every call is guarded by the circuit. Where no call brings a cursor, at most so many as may fail go to
the workers before the circuit opens, and after that one trial for each time that has to go by. -/
theorem Run.circuit_guards [DecidableEq ι] [IsOrderedAddMonoid T] {s s' : Session (Fleet ι ω T)}
    {visits : List (Visit ι ω T)} {name : String} (hmax : 1 ≤ failMax)
    (hstart : s.outside.circuit = Circuit.start name failMax reset [])
    (hup : ∀ i, (s.outside.desks i).shutDown = false) (run : Run h s visits s') :
    (∀ v ∈ visits, v.IsGuarded h) ∧
      ∀ before stretch after, visits = before ++ stretch ++ after →
        (∀ v ∈ stretch, ∀ cursor, (v.outcome h).1 ≠ .ok cursor) →
        ∃ failing trials openedAt, stretch = failing ++ trials ∧
          (∀ v ∈ failing, v.circuit.state = .closed) ∧ failing.countP (Visit.submits h) ≤ failMax ∧
          SpacedTrials h reset openedAt trials := by
  have hs : Settled h failMax reset s.outside := by
    refine ⟨hup, ?_, ?_, ?_, Or.inl ?_⟩
    all_goals rw [hstart]
    · rfl
    · rfl
    · rfl
    · exact ⟨rfl, hmax⟩
  refine ⟨fun v hv => Visit.isGuarded_of_settled ((run.settled hmax hs).2 v hv), ?_⟩
  intro before stretch after heq hnone
  obtain ⟨m', hearly, -⟩ := run.split heq
  obtain ⟨m, hbefore, hstretch⟩ := hearly.split rfl
  have hm := (hbefore.settled hmax hs).1
  obtain ⟨failing, trials, openedAt, heq, hclosed, hbound, htrials⟩ :=
    hstretch.failures_then_trials hmax hm hnone
  refine ⟨failing, trials, openedAt, heq, hclosed, ?_, htrials⟩
  rcases hbound with rfl | hbound
  · exact Nat.zero_le failMax
  · exact (Nat.le_add_left _ _).trans hbound

/-- An engine that can never be reached, with seconds for a clock. -/
def Engine.unreachable : Engine ℤ ℤ where
  now w := w
  sleep t w := w + t
  wait t w := w + t
  turn _ := .atOnce
  begin w := w
  connect w := (.error (.fault ⟨.database, "connection refused"⟩), w + 1)
  run _ _ w := (.ok 0, w)
  columns _ _ := none
  fetch _ _ w := (.ok [], w)
  fetchesLeft _ _ := 0
  closeResult _ w := (.ok (), w)
  closeConnection _ w := (.ok (), w)
  dispose w := w

theorem Engine.unreachable_forward : Engine.unreachable.Forward where
  sleep _ w ht := (lt_add_of_pos_right w ht).le
  wait _ _ ht := le_add_of_nonneg_right ht
  begin _ := le_rfl
  connect w := (Int.lt_succ w).le
  run _ _ _ := le_rfl
  closeResult _ _ := le_rfl
  closeConnection _ _ := le_rfl

theorem Run.circuit_guards_unreachable :
    let h : Handles Bool ℤ ℤ := {
      engine := fun _ => .unreachable
      plan := fun _ => ⟨"host", 1, 0, none, fetchBatchSize⟩
      clock := fun w => w
      now_eq := fun _ _ => rfl
      forward := fun _ => Engine.unreachable_forward }
    let s : Session (Fleet Bool ℤ ℤ) :=
      .start ⟨0, .start "DB_BREAKER" 2 30 [], fun _ => ⟨[], [], false⟩⟩
    let v₁ : Visit Bool ℤ ℤ := ⟨s, false, "SELECT 1", "60", 60⟩
    let v₂ : Visit Bool ℤ ℤ := ⟨v₁.after h, true, "SELECT 1", "60", 60⟩
    let v₃ : Visit Bool ℤ ℤ := ⟨v₂.after h, false, "SELECT 1", "60", 60⟩
    let later := { v₃.after h with outside := { (v₃.after h).outside with engine := 32 } }
    let v₄ : Visit Bool ℤ ℤ := ⟨later, true, "SELECT 1", "60", 60⟩
    let visits := [v₁, v₂, v₃, v₄]
    visits.map (Visit.submits h) = [true, true, false, true] ∧ Run h s visits (v₄.after h) ∧
      (∀ v ∈ visits, v.IsGuarded h) ∧
      ∃ failing trials openedAt, visits = failing ++ trials ∧
        (∀ v ∈ failing, v.circuit.state = .closed) ∧ failing.countP (Visit.submits h) ≤ 2 ∧
        SpacedTrials h 30 openedAt trials := by
  intro h s v₁ v₂ v₃ later v₄ visits
  have run : Run h s visits (v₄.after h) :=
    .call v₁ (.call v₂ (.call v₃ (.elapse _ later rfl (by decide +kernel) (fun _ => rfl)
      (.call v₄ (.done _)))))
  have hnone : ∀ v ∈ visits, ∀ cursor, (v.outcome h).1 ≠ .ok cursor := by
    have hfailed : visits.all (fun v => !(v.outcome h).1.isOk) = true := by decide +kernel
    intro v hv cursor hcursor
    have hv := List.all_eq_true.mp hfailed v hv
    rw [hcursor] at hv
    cases hv
  obtain ⟨hguarded, hstretch⟩ := run.circuit_guards (by decide) rfl fun _ => rfl
  exact ⟨by decide +kernel, run, hguarded, hstretch [] visits [] (by simp) hnone⟩

end QueryGate
