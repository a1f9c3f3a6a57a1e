import Mathlib.Control.Monad.Basic
import QueryGate.Connection.EngineScript
import QueryGate.Proofs.Connection.Ledger
import QueryGate.Service.Health
/-! What a ping raises. Whatever the engine does while the statement is opened and read becomes a
failure; only what it raises while the cursor is closed is passed on as it is. -/

namespace QueryGate

section OnlyFails

variable {σ α β : Type}

/-- The call raises failures alone, no fault. -/
def Act.OnlyFails (a : Act σ α) : Prop :=
  ∀ s f, (a.outcome s).1 ≠ .error (.fault f)

namespace Act

theorem onlyFails_log (level : LogLevel) (logger message : String) :
    (log level logger message : Act σ Unit).OnlyFails :=
  nofun

theorem onlyFails_fail (kind : FailureKind) (message : String) (cause : Option FaultKind) :
    (fail kind message cause : Act σ α).OnlyFails :=
  nofun

theorem OnlyFails.bind {a : Act σ α} {f : α → Act σ β} (h : a.OnlyFails)
    (hf : ∀ x, (f x).OnlyFails) : (a >>= f).OnlyFails := by
  intro s e
  have hs := h s e
  rw [outcome_bind]
  generalize a.outcome s = o at hs
  rcases o with ⟨r | x, s'⟩
  · simpa using hs
  · exact hf x s' e

/-- Whatever a call raises, a handler that only fails leaves failures. -/
theorem onlyFails_onFault (a : Act σ α) {handler : Fault → Act σ α}
    (h : ∀ f, (handler f).OnlyFails) : (a.onFault handler).OnlyFails := by
  intro s e
  rw [outcome_onFault]
  rcases a.outcome s with ⟨(f | f) | x, s'⟩
  · nofun
  · exact h f s' e
  · nofun

end Act

end OnlyFails

namespace Pool

variable {ω T : Type} {e : Engine ω T}

/-- What closing a cursor raises was raised by the engine, closing the result or the connection. -/
theorem raised_of_closeCursor {cursor : Nat} {s : Session (Pool ω T)} {r : Raised}
    (h : ((closeCursor e cursor).outcome s).1 = .error r) :
    (∃ result w, (e.closeResult result w).1 = .error r) ∨
      ∃ connection w, (e.closeConnection connection w).1 = .error r := by
  unfold closeCursor at h
  rw [Act.outcome_bind, Act.outcome_outside] at h
  dsimp only at h
  cases hc : s.outside.cursors[cursor]? with
  | none => simp [hc] at h
  | some c =>
    simp only [hc] at h
    split at h
    · cases h
    · rw [Act.outcome_bind, Act.outcome_change] at h
      dsimp only at h
      rw [Act.outcome_andFinally, outcome_engineCall, outcome_engineCall] at h
      -- an error of the connection hides one of the result
      split at h
      · exact .inl ⟨c.result, _, h⟩
      · rename_i hlast
        cases h
        exact .inr ⟨c.connection, _, congrArg Prod.fst hlast⟩

/-- The reading of a ping. -/
def drain (plan : PoolPlan T) (cursor : Cursor (Pool ω T)) : Act (Pool ω T) Unit :=
  (cursor.rows.fold (fun () _ => pure (.yield ())) ()).onFault fun f => do
    Act.log .error poolLogger s!"Ping fetch failed on {plan.name}: {f.message}"
    Act.fail .remote ("Ping failed while fetching: " ++ f.message) (some f.kind)

theorem onlyFails_drain (plan : PoolPlan T) (cursor : Cursor (Pool ω T)) :
    (drain plan cursor).OnlyFails :=
  Act.onlyFails_onFault _ fun _ => (Act.onlyFails_log _ _ _).bind fun _ => Act.onlyFails_fail _ _ _

variable [Add T] [Sub T] [OfNat T 0] [LT T] [LE T] [DecidableLT T] [DecidableLE T]

theorem onlyFails_openGuarded (plan : PoolPlan T) (sql : String) (deadline : Deadline T) :
    (openGuarded e plan sql deadline).OnlyFails := by
  refine Act.onlyFails_onFault _ fun f => ?_
  split
  · exact Act.onlyFails_fail _ _ _
  · exact (Act.onlyFails_log _ _ _).bind fun _ => Act.onlyFails_fail _ _ _

/-- The cursor that a ping opens, and the session once it was opened. -/
def pingOpens (e : Engine ω T) (plan : PoolPlan T) (label : String) (timeout : T)
    (s : Session (Pool ω T)) : Except Raised Nat × Session (Pool ω T) :=
  (openGuarded e plan pingStatement (.after label timeout (e.now s.outside.engine))).outcome s

theorem ping_eq (plan : PoolPlan T) (label : String) (timeout : T) (s : Session (Pool ω T)) :
    (ping e plan label timeout).outcome s =
      match pingOpens e plan label timeout s with
      | (.ok cursor, s₁) =>
        ((cursorOf e plan cursor).use (drain plan)).outcome s₁
      | (.error r, s₁) => (.error r, s₁) := by
  have hdeadline : (deadlineAfter e label timeout).outcome s =
      (.ok (.after label timeout (e.now s.outside.engine)), s) := rfl
  unfold ping execute pingOpens
  rw [Act.outcome_bind, Act.outcome_bind, hdeadline]
  dsimp only
  rw [Act.outcome_bind]
  rcases (openGuarded e plan pingStatement _).outcome s with ⟨r | cursor, s₁⟩ <;> rfl

/-- A ping opens a cursor, reads it, and closing it raises. -/
def PingCloses (e : Engine ω T) (plan : PoolPlan T) (label : String) (timeout : T)
    (s : Session (Pool ω T)) (r : Raised) : Prop :=
  ∃ cursor s₁, pingOpens e plan label timeout s = (.ok cursor, s₁) ∧
    ((closeCursor e cursor).outcome ((drain plan (cursorOf e plan cursor)).outcome s₁).2).1 = .error r

theorem ping_fault_iff (plan : PoolPlan T) (label : String) (timeout : T) (s : Session (Pool ω T))
    (f : Fault) : ((ping e plan label timeout).outcome s).1 = .error (.fault f) ↔
      PingCloses e plan label timeout s (.fault f) := by
  have hopen : (pingOpens e plan label timeout s).1 ≠ .error (.fault f) :=
    onlyFails_openGuarded plan pingStatement _ s f
  rw [ping_eq]
  unfold PingCloses
  generalize pingOpens e plan label timeout s = opened at hopen ⊢
  rcases opened with ⟨r | cursor, s₁⟩
  · simpa using hopen
  · have hdrain := onlyFails_drain plan (cursorOf e plan cursor) s₁ f
    have hclose : (cursorOf e plan cursor).close = closeCursor e cursor := rfl
    simp only [Cursor.use, Act.outcome_andFinally, hclose, Prod.mk.injEq, Except.ok.injEq]
    constructor
    · intro h
      refine ⟨cursor, s₁, ⟨rfl, rfl⟩, ?_⟩
      split at h
      · exact absurd h hdrain
      · rename_i r s₂ hr
        rw [hr]
        exact h
    · rintro ⟨_, _, ⟨rfl, rfl⟩, h⟩
      split
      · rename_i hok
        rw [hok] at h
        cases h
      · rename_i r s₂ hr
        rw [hr] at h
        exact h

end Pool

theorem checkHealth_error_iff {σ : Type} (handle : Handle σ) (timeout : Amount) (s : Session σ)
    (r : Raised) : ((checkHealth handle timeout).outcome s).1 = .error r ↔
      ∃ f, r = .fault f ∧ ((handle.ping timeout).outcome s).1 = .error (.fault f) := by
  unfold checkHealth
  rw [Act.outcome_bind, Act.outcome_caught]
  rcases (handle.ping timeout).outcome s with ⟨(f | f) | ⟨⟩, s₁⟩
  · simp [Act.outcome_bind, Except.map]
  · simp [eq_comm]
  · simp [Except.map]

/-- Over a pool a ping raises a fault, and a health check raises at all, just if a cursor was opened and
read and the engine raises that fault when the cursor is closed. -/
theorem checkHealth_pooled {ω : Type} (e : Engine ω Float) (plan : PoolPlan Float) (timeout : Amount)
    (s : Session (Pool ω Float)) :
    (∀ f, (((pooledHandle e plan).ping timeout).outcome s).1 = .error (.fault f) ↔
      Pool.PingCloses e plan timeout.text timeout.toFloat s (.fault f)) ∧
    (∀ r, ((checkHealth (pooledHandle e plan) timeout).outcome s).1 = .error r ↔
      ∃ f, r = .fault f ∧ Pool.PingCloses e plan timeout.text timeout.toFloat s (.fault f)) ∧
    ∀ r, Pool.PingCloses e plan timeout.text timeout.toFloat s r →
      (∃ result w, (e.closeResult result w).1 = .error r) ∨
        ∃ connection w, (e.closeConnection connection w).1 = .error r := by
  have hping := fun f => Pool.ping_fault_iff (e := e) plan timeout.text timeout.toFloat s f
  refine ⟨hping, fun r => ?_, ?_⟩
  · rw [checkHealth_error_iff]
    simp only [← hping]
    rfl
  · rintro r ⟨cursor, s₁, -, hclose⟩
    exact Pool.raised_of_closeCursor hclose

/-- An engine that answers, and whose connection is gone when the result is closed. -/
def resetScript : EngineScript Float where
  connects := []
  statement := ⟨0.0, none, ["1"], [[.int 1]], true, 0.0, none,
    some (.fault ⟨.runtime, "connection reset"⟩)⟩
  turn := .atOnce

theorem checkHealth_pooled_reset :
    let e : Engine (ScriptedEngine Float) Float := ScriptedEngine.engine
    let plan : PoolPlan Float := ⟨"main", 1, 0.0, none, fetchBatchSize⟩
    let timeout : Amount := .whole 5
    let s := Session.start (Pool.start (.start 0.0 resetScript) (.start "engine" 5 30.0 []))
    let r : Raised := .fault ⟨.runtime, "connection reset"⟩
    Pool.PingCloses e plan timeout.text timeout.toFloat s r ∧
      ((∃ result w, (e.closeResult result w).1 = .error r) ∨
        ∃ connection w, (e.closeConnection connection w).1 = .error r) := by
  intro e plan timeout s r
  obtain ⟨hping, -, hraised⟩ := checkHealth_pooled e plan timeout s
  have hcloses := (hping ⟨.runtime, "connection reset"⟩).mp (by decide +kernel)
  exact ⟨hcloses, hraised r hcloses⟩

/-- The check is not answered: it raises what closing the cursor raised. -/
theorem checkHealth_reset :
    let handle := pooledHandle ScriptedEngine.engine ⟨"main", 1, 0.0, none, fetchBatchSize⟩
    let s := Session.start (Pool.start (.start 0.0 resetScript) (.start "engine" 5 30.0 []))
    ((handle.ping (.whole 5)).outcome s).1 = .error (.fault ⟨.runtime, "connection reset"⟩) ∧
      ((checkHealth handle (.whole 5)).outcome s).1 =
        .error (.fault ⟨.runtime, "connection reset"⟩) := by
  intro handle s
  constructor
  · decide +kernel
  · decide +kernel

end QueryGate
