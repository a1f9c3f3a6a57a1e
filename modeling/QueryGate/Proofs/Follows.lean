import Mathlib.Order.Defs.Unbundled
import QueryGate.Connection.Pool
import QueryGate.Proofs.Session
/-! Calls that move what is outside along a relation, and rows that do so while they come in. -/

namespace QueryGate

variable {σ α β : Type}

/-- The call moves what is outside along a relation, also when it raises. -/
def Act.Follows (r : σ → σ → Prop) (a : Act σ α) : Prop :=
  ∀ s, r s.outside (a.outcome s).2.outside

namespace Act

variable {r : σ → σ → Prop}

theorem follows_step {f : σ → α × σ} (h : ∀ x, r x (f x).2) : (step f).Follows r :=
  fun s => h s.outside

theorem follows_change {f : σ → σ} (h : ∀ x, r x (f x)) : (change f).Follows r :=
  fun s => h s.outside

theorem Follows.caught {a : Act σ α} (h : a.Follows r) : a.caught.Follows r := by
  intro s
  rw [outcome_caught]
  exact h s

theorem Follows.discard {a : Act σ α} (h : a.Follows r) :
    (discard a : Act σ PUnit).Follows r := by
  intro s
  rw [outcome_discard]
  exact h s

variable [IsPreorder σ r]

theorem follows_pure (x : α) : (pure x : Act σ α).Follows r :=
  fun s => refl s.outside

theorem follows_raise (e : Raised) : (raise e : Act σ α).Follows r :=
  fun s => refl s.outside

theorem follows_log (level : LogLevel) (logger message : String) :
    (log level logger message : Act σ Unit).Follows r :=
  fun s => refl s.outside

theorem follows_outside : (outside : Act σ σ).Follows r :=
  fun s => refl s.outside

theorem follows_given (value : Except Raised α) : (given value : Act σ α).Follows r := by
  intro s
  rw [outcome_given]
  exact refl s.outside

theorem Follows.bind {a : Act σ α} {f : α → Act σ β} (h : a.Follows r) (hf : ∀ x, (f x).Follows r) :
    (a >>= f).Follows r := by
  intro s
  have hs := h s
  rw [outcome_bind]
  generalize a.outcome s = o at hs
  rcases o with ⟨e | x, s'⟩
  · exact hs
  · exact IsTrans.trans _ _ _ hs (hf x s')

theorem Follows.andFinally {a : Act σ α} {last : Act σ Unit} (h : a.Follows r)
    (hlast : last.Follows r) : (a.andFinally last).Follows r :=
  h.caught.bind fun _ => hlast.bind fun _ => follows_given _

theorem Follows.onFault {a : Act σ α} {handler : Fault → Act σ α} (h : a.Follows r)
    (hhandler : ∀ f, (handler f).Follows r) : (a.onFault handler).Follows r := by
  refine h.caught.bind fun result => ?_
  rcases result with (f | f) | x
  · exact follows_raise _
  · exact hhandler f
  · exact follows_pure x

end Act

/-- What is outside moves along a relation at each fetch. -/
def Rows.Follows (r : σ → σ → Prop) : Rows σ → Prop
  | .done => True
  | .broken _ => True
  | .row _ rest => rest.Follows r
  | .fetch move next => (∀ x, r x (move x)) ∧ ∀ x, (next x).Follows r

namespace Rows

variable {r : σ → σ → Prop}

theorem Follows.batch {rest : Rows σ} (h : rest.Follows r) (batch : List (List Cell)) :
    (batch.foldr Rows.row rest).Follows r := by
  induction batch with
  | nil => exact h
  | cons cells batch ih => exact ih

theorem Follows.fold [IsPreorder σ r] {step : β → List Cell → Act σ (ForInStep β)}
    (hstep : ∀ b cells, (step b cells).Follows r) {rows : Rows σ} (h : rows.Follows r) (b : β) :
    (rows.fold step b).Follows r := by
  induction rows generalizing b with
  | done => exact Act.follows_pure b
  | broken e => exact Act.follows_raise e
  | row cells rest ih =>
    refine (hstep b cells).bind fun next => ?_
    cases next with
    | done b => exact Act.follows_pure b
    | yield b => exact ih h b
  | fetch move next ih =>
    exact Act.follows_outside.bind fun p => (Act.follows_change h.1).bind fun _ => ih p (h.2 p) b

end Rows

/-! The rows of a pool. -/

namespace Pool

variable {ω T : Type} [Sub T] [OfNat T 0] [LT T] [LE T] [DecidableLT T] [DecidableLE T] {e : Engine ω T}
  {r : Pool ω T → Pool ω T → Prop} [IsPreorder (Pool ω T) r] {size : Nat}

theorem follows_batches (h : ∀ result p, r p { p with engine := (e.fetch result size p.engine).2 })
    (cursor : OpenCursor T) (left : Nat) : (batches e size cursor left).Follows r := by
  induction left with
  | zero => trivial
  | succ left ih =>
    refine ⟨fun p => ?_, fun p => ?_⟩
    · dsimp only
      split
      · exact refl p
      · exact h cursor.result p
    · dsimp only
      split
      · trivial
      · split
        · trivial
        · trivial
        · exact ih.batch _

theorem follows_rowsOf (h : ∀ result p, r p { p with engine := (e.fetch result size p.engine).2 }) (cursor : Nat) :
    (rowsOf e size cursor).Follows r := by
  refine ⟨fun p => refl p, fun p => ?_⟩
  dsimp only
  split
  · trivial
  · split
    · trivial
    · exact follows_batches h _ _

end Pool

end QueryGate
