import QueryGate.Session
/-! What a call built from smaller calls gives and leaves behind. -/

namespace QueryGate

/-- A computation that gives a value went through both of its parts. -/
theorem bind_eq_ok {ε α β : Type} {a : Except ε α} {f : α → Except ε β} {y : β}
    (h : a >>= f = .ok y) : ∃ x, a = .ok x ∧ f x = .ok y := by
  cases a with
  | error e => cases h
  | ok x => exact ⟨x, rfl, h⟩

theorem map_eq_ok {ε α β : Type} {a : Except ε α} {f : α → β} {y : β} (h : a.map f = .ok y) :
    ∃ x, a = .ok x ∧ f x = y := by
  cases a with
  | error e => cases h
  | ok x => exact ⟨x, rfl, Except.ok.inj h⟩

/-- A computation that fails fails in one of its parts. -/
theorem bind_eq_error {ε α β : Type} {a : Except ε α} {f : α → Except ε β} {e : ε}
    (h : a >>= f = .error e) : a = .error e ∨ ∃ x, a = .ok x ∧ f x = .error e := by
  cases a with
  | error e' =>
    cases h
    exact .inl rfl
  | ok x => exact .inr ⟨x, rfl, h⟩

/-- A session that serves a request with an id. -/
def Session.under {σ : Type} (s : Session σ) (id : String) : Session σ :=
  { s with trace := some id }

namespace Act

variable {σ α β : Type}

theorem ext_outcome {a b : Act σ α} (h : ∀ s, a.outcome s = b.outcome s) : a = b :=
  funext h

@[simp] theorem outcome_pure (x : α) (s : Session σ) : (pure x : Act σ α).outcome s = (.ok x, s) := rfl

@[simp] theorem outcome_raise (r : Raised) (s : Session σ) :
    (raise r : Act σ α).outcome s = (.error r, s) := rfl

@[simp] theorem outcome_throw (r : Raised) (s : Session σ) :
    (throw r : Act σ α).outcome s = (.error r, s) := rfl

@[simp] theorem outcome_log (level : LogLevel) (logger message : String) (s : Session σ) :
    (log level logger message).outcome s =
      (.ok (), { s with log := s.log ++ [⟨level, logger, message, s.trace⟩] }) := rfl

@[simp] theorem outcome_change (f : σ → σ) (s : Session σ) :
    (change f).outcome s = (.ok (), { s with outside := f s.outside }) := rfl

@[simp] theorem outcome_step (f : σ → α × σ) (s : Session σ) :
    (step f).outcome s = (.ok (f s.outside).1, { s with outside := (f s.outside).2 }) := rfl

@[simp] theorem outcome_outside (s : Session σ) :
    (outside : Act σ σ).outcome s = (.ok s.outside, s) := rfl

theorem outcome_bind (a : Act σ α) (f : α → Act σ β) (s : Session σ) :
    (a >>= f).outcome s =
      match a.outcome s with
      | (.ok x, s') => (f x).outcome s'
      | (.error r, s') => (.error r, s') := by
  unfold outcome ExceptT.run StateT.run
  simp only [bind, ExceptT.bind, ExceptT.mk, StateT.bind, ExceptT.bindCont]
  rcases a s with ⟨_ | x, s'⟩ <;> rfl

/-- A value that comes out of a call whose value is turned into another. -/
theorem eq_of_bind_pure {a : Act σ α} {f : α → β} {s s' : Session σ} {y : β}
    (h : (a >>= fun x => pure (f x)).outcome s = (.ok y, s')) : ∃ x, y = f x := by
  rw [outcome_bind] at h
  generalize a.outcome s = o at h
  rcases o with ⟨r | x, s₁⟩
  · cases h
  · cases h
    exact ⟨x, rfl⟩

/-- A call that gives a value went through both of its parts. -/
theorem of_outcome_bind {a : Act σ α} {f : α → Act σ β} {s s' : Session σ} {y : β}
    (h : (a >>= f).outcome s = (.ok y, s')) : ∃ x t, a.outcome s = (.ok x, t) ∧ (f x).outcome t = (.ok y, s') := by
  rw [outcome_bind] at h
  generalize a.outcome s = o at h
  obtain ⟨r | x, t⟩ := o
  · cases h
  · exact ⟨x, t, rfl, h⟩

@[simp] theorem outcome_map (f : α → β) (a : Act σ α) (s : Session σ) :
    (f <$> a).outcome s = ((a.outcome s).1.map f, (a.outcome s).2) := by
  rw [map_eq_pure_bind, outcome_bind]
  rcases a.outcome s with ⟨_ | x, s'⟩ <;> rfl

/-- Calls that never raise, one after the other. -/
theorem outcome_forM {f : α → Act σ Unit} {g : Session σ → α → Session σ}
    (h : ∀ x s, (f x).outcome s = (.ok (), g s x)) (xs : List α) (s : Session σ) :
    (xs.forM f).outcome s = (.ok (), xs.foldl g s) := by
  induction xs generalizing s with
  | nil => rfl
  | cons x xs ih =>
    have hcons : (x :: xs).forM f = f x >>= fun _ => xs.forM f := rfl
    rw [hcons, outcome_bind, h]
    exact ih (g s x)

theorem outcome_forM_outside {f : α → Act σ Unit} {g : σ → α → σ}
    (h : ∀ x s, (f x).outcome s = (.ok (), { s with outside := g s.outside x })) (xs : List α) (s : Session σ) :
    (xs.forM f).outcome s = (.ok (), { s with outside := xs.foldl g s.outside }) := by
  rw [outcome_forM h]
  exact congrArg (Prod.mk _) (List.foldl_hom (fun outside => { s with outside }) fun _ _ => rfl)

theorem outcome_discard (a : Act σ α) (s : Session σ) :
    (discard a).outcome s = ((a.outcome s).1.map fun _ => (), (a.outcome s).2) :=
  outcome_map (fun _ => ()) a s

@[simp] theorem outcome_caught (a : Act σ α) (s : Session σ) :
    (caught a).outcome s = (.ok (a.outcome s).1, (a.outcome s).2) := by
  unfold caught outcome ExceptT.run StateT.run
  simp only [tryCatch, tryCatchThe, MonadExceptOf.tryCatch, ExceptT.tryCatch, bind, ExceptT.bind,
    ExceptT.mk, StateT.bind, ExceptT.bindCont]
  rcases a s with ⟨_ | x, s'⟩ <;> rfl

@[simp] theorem outcome_given (value : Except Raised α) (s : Session σ) :
    (given value).outcome s = (value, s) := by
  cases value <;> rfl

/-- The last call always runs; its error hides one of the first. -/
theorem outcome_andFinally (a : Act σ α) (last : Act σ Unit) (s : Session σ) :
    (andFinally a last).outcome s =
      match last.outcome (a.outcome s).2 with
      | (.ok (), s') => ((a.outcome s).1, s')
      | (.error r, s') => (.error r, s') := by
  simp only [andFinally, outcome_bind, outcome_caught, outcome_given]
  rcases last.outcome (a.outcome s).2 with ⟨_ | ⟨⟩, s'⟩ <;> rfl

theorem outcome_traced (id : String) (act : Act σ α) (s : Session σ) :
    (traced id act).outcome s =
      ((act.outcome (s.under id)).1, { (act.outcome (s.under id)).2 with trace := s.trace }) := by
  have hget : (get : Act σ (Session σ)).outcome s = (.ok s, s) := rfl
  have hset : ∀ (t : Session σ) (id : Option String),
      (modify fun s => { s with trace := id } : Act σ Unit).outcome t =
        (.ok (), { t with trace := id }) := fun _ _ => rfl
  rw [traced, outcome_bind, hget]
  dsimp only
  rw [outcome_bind, hset]
  dsimp only
  rw [outcome_andFinally, hset]
  rfl

theorem outcome_onFault (a : Act σ α) (handler : Fault → Act σ α) (s : Session σ) :
    (onFault a handler).outcome s =
      match a.outcome s with
      | (.error (.fault f), s') => (handler f).outcome s'
      | (result, s') => (result, s') := by
  simp only [onFault, outcome_bind, outcome_caught]
  rcases a.outcome s with ⟨(f | f) | x, s'⟩ <;> rfl

/-- The call ends in an error from every session. -/
def AlwaysRaises (a : Act σ α) : Prop :=
  ∀ s, ∃ r, (a.outcome s).1 = .error r

/-- The call ends in a value from every session. -/
def NeverRaises (a : Act σ α) : Prop :=
  ∀ s, ∃ x, (a.outcome s).1 = .ok x

theorem AlwaysRaises.bind {a : Act σ α} (h : a.AlwaysRaises) (f : α → Act σ β) :
    (a >>= f).AlwaysRaises := by
  intro s
  obtain ⟨r, hr⟩ := h s
  refine ⟨r, ?_⟩
  rw [outcome_bind]
  generalize a.outcome s = o at hr
  obtain ⟨_, s'⟩ := o
  simp only at hr
  rw [hr]

theorem AlwaysRaises.after {f : α → Act σ β} (a : Act σ α) (hf : ∀ x, (f x).AlwaysRaises) :
    (a >>= f).AlwaysRaises := by
  intro s
  rw [outcome_bind]
  rcases a.outcome s with ⟨r | x, s'⟩
  · exact ⟨r, rfl⟩
  · exact hf x s'

theorem alwaysRaises_raise (r : Raised) : (raise r : Act σ α).AlwaysRaises :=
  fun _ => ⟨r, rfl⟩

theorem NeverRaises.bind {a : Act σ α} {f : α → Act σ β} (h : a.NeverRaises)
    (hf : ∀ x, (f x).NeverRaises) : (a >>= f).NeverRaises := by
  intro s
  obtain ⟨x, hx⟩ := h s
  rw [outcome_bind]
  generalize a.outcome s = o at hx
  obtain ⟨_, s'⟩ := o
  simp only at hx
  rw [hx]
  exact hf x s'

theorem neverRaises_pure (x : α) : (pure x : Act σ α).NeverRaises :=
  fun _ => ⟨x, rfl⟩

theorem neverRaises_log (level : LogLevel) (logger message : String) :
    (log level logger message : Act σ Unit).NeverRaises :=
  fun _ => ⟨(), rfl⟩

theorem neverRaises_caught (a : Act σ α) : a.caught.NeverRaises :=
  fun s => ⟨(a.outcome s).1, by simp⟩

theorem neverRaises_change (f : σ → σ) : (change f).NeverRaises :=
  fun _ => ⟨(), rfl⟩

theorem NeverRaises.outcome_eq {a : Act σ α} (h : a.NeverRaises) (s : Session σ) :
    ∃ x s', a.outcome s = (.ok x, s') := by
  obtain ⟨x, hx⟩ := h s
  exact ⟨x, (a.outcome s).2, Prod.ext hx rfl⟩

end Act

end QueryGate
