import QueryGate.Proofs.Session
import QueryGate.Service.Health
/-! Calls over two outsides that go together. From sessions that are alike, such calls end alike, with the
same errors and the same lines in the log, and leave sessions that are alike. -/

namespace QueryGate

variable {σ₁ σ₂ α₁ α₂ β₁ β₂ α β : Type}

/-- Two values that are related, or one error twice. -/
inductive EndsAlike (Q : α₁ → α₂ → Prop) : Except Raised α₁ → Except Raised α₂ → Prop
  | ok {x : α₁} {y : α₂} : Q x y → EndsAlike Q (.ok x) (.ok y)
  | error (r : Raised) : EndsAlike Q (.error r) (.error r)

theorem EndsAlike.refl (result : Except Raised α) : EndsAlike Eq result result := by
  cases result with
  | ok x => exact .ok rfl
  | error r => exact .error r

theorem EndsAlike.eq {a b : Except Raised α} (h : EndsAlike Eq a b) : a = b := by
  cases h with
  | ok hxy => rw [hxy]
  | error r => rfl

structure Session.Alike (R : σ₁ → σ₂ → Prop) (s₁ : Session σ₁) (s₂ : Session σ₂) : Prop where
  outside : R s₁.outside s₂.outside
  log : s₁.log = s₂.log
  trace : s₁.trace = s₂.trace

/-- From sessions that are alike, two calls end alike. -/
def Act.Alike (R : σ₁ → σ₂ → Prop) (Q : α₁ → α₂ → Prop) (a₁ : Act σ₁ α₁) (a₂ : Act σ₂ α₂) : Prop :=
  ∀ s₁ s₂, Session.Alike R s₁ s₂ →
    EndsAlike Q (a₁.outcome s₁).1 (a₂.outcome s₂).1 ∧
      Session.Alike R (a₁.outcome s₁).2 (a₂.outcome s₂).2

namespace Act

variable {R : σ₁ → σ₂ → Prop} {Q : α₁ → α₂ → Prop} {P : β₁ → β₂ → Prop} {a₁ : Act σ₁ α₁} {a₂ : Act σ₂ α₂}

theorem alike_pure {x : α₁} {y : α₂} (h : Q x y) :
    Alike R Q (pure x : Act σ₁ α₁) (pure y : Act σ₂ α₂) :=
  fun _ _ hs => ⟨.ok h, hs⟩

theorem alike_raise (r : Raised) : Alike R Q (raise r : Act σ₁ α₁) (raise r : Act σ₂ α₂) :=
  fun _ _ hs => ⟨.error r, hs⟩

theorem alike_log (level : LogLevel) (logger message : String) :
    Alike R Eq (log level logger message : Act σ₁ Unit) (log level logger message : Act σ₂ Unit) :=
  fun s₁ s₂ hs => ⟨.ok rfl, hs.outside, by simp [hs.log, hs.trace], hs.trace⟩

theorem alike_outside : Alike R R (outside : Act σ₁ σ₁) (outside : Act σ₂ σ₂) :=
  fun _ _ hs => ⟨.ok hs.outside, hs⟩

theorem alike_change {f₁ : σ₁ → σ₁} {f₂ : σ₂ → σ₂} (h : ∀ w₁ w₂, R w₁ w₂ → R (f₁ w₁) (f₂ w₂)) :
    Alike R Eq (change f₁ : Act σ₁ Unit) (change f₂ : Act σ₂ Unit) :=
  fun s₁ s₂ hs => ⟨.ok rfl, h s₁.outside s₂.outside hs.outside, hs.log, hs.trace⟩

theorem alike_step {f₁ : σ₁ → α₁ × σ₁} {f₂ : σ₂ → α₂ × σ₂}
    (h : ∀ w₁ w₂, R w₁ w₂ → Q (f₁ w₁).1 (f₂ w₂).1 ∧ R (f₁ w₁).2 (f₂ w₂).2) :
    Alike R Q (step f₁ : Act σ₁ α₁) (step f₂ : Act σ₂ α₂) := by
  intro s₁ s₂ hs
  obtain ⟨hvalue, houtside⟩ := h s₁.outside s₂.outside hs.outside
  exact ⟨.ok hvalue, houtside, hs.log, hs.trace⟩

theorem alike_given {x : Except Raised α₁} {y : Except Raised α₂} (h : EndsAlike Q x y) :
    Alike R Q (given x : Act σ₁ α₁) (given y : Act σ₂ α₂) := by
  intro s₁ s₂ hs
  rw [outcome_given, outcome_given]
  exact ⟨h, hs⟩

theorem Alike.bind {f₁ : α₁ → Act σ₁ β₁} {f₂ : α₂ → Act σ₂ β₂} (h : Alike R Q a₁ a₂)
    (hf : ∀ x y, Q x y → Alike R P (f₁ x) (f₂ y)) : Alike R P (a₁ >>= f₁) (a₂ >>= f₂) := by
  intro s₁ s₂ hs
  have hends := h s₁ s₂ hs
  rw [outcome_bind, outcome_bind]
  generalize a₁.outcome s₁ = o₁ at hends
  generalize a₂.outcome s₂ = o₂ at hends
  obtain ⟨result₁, s₁'⟩ := o₁
  obtain ⟨result₂, s₂'⟩ := o₂
  obtain ⟨hresult, hs'⟩ := hends
  dsimp only at hresult
  cases hresult with
  | ok hxy => exact hf _ _ hxy s₁' s₂' hs'
  | error r => exact ⟨.error r, hs'⟩

/-- Behind two calls that end in the same value. -/
theorem Alike.bindSame {a₁ : Act σ₁ α} {a₂ : Act σ₂ α} {f₁ : α → Act σ₁ β₁} {f₂ : α → Act σ₂ β₂}
    (h : Alike R Eq a₁ a₂) (hf : ∀ x, Alike R P (f₁ x) (f₂ x)) : Alike R P (a₁ >>= f₁) (a₂ >>= f₂) :=
  h.bind fun x _ hxy => hxy ▸ hf x

theorem Alike.caught (h : Alike R Q a₁ a₂) : Alike R (EndsAlike Q) a₁.caught a₂.caught := by
  intro s₁ s₂ hs
  rw [outcome_caught, outcome_caught]
  exact ⟨.ok (h s₁ s₂ hs).1, (h s₁ s₂ hs).2⟩

theorem Alike.caughtSame {a₁ : Act σ₁ α} {a₂ : Act σ₂ α} (h : Alike R Eq a₁ a₂) :
    Alike R Eq a₁.caught a₂.caught := by
  intro s₁ s₂ hs
  rw [outcome_caught, outcome_caught]
  exact ⟨.ok (h s₁ s₂ hs).1.eq, (h s₁ s₂ hs).2⟩

theorem Alike.discard (h : Alike R Q a₁ a₂) :
    Alike R Eq (discard a₁ : Act σ₁ PUnit) (discard a₂ : Act σ₂ PUnit) := by
  intro s₁ s₂ hs
  obtain ⟨hends, hs'⟩ := h s₁ s₂ hs
  rw [outcome_discard, outcome_discard]
  refine ⟨?_, hs'⟩
  generalize (a₁.outcome s₁).1 = result₁ at hends
  generalize (a₂.outcome s₂).1 = result₂ at hends
  cases hends with
  | ok _ => exact .ok rfl
  | error r => exact .error r

theorem Alike.andFinally {last₁ : Act σ₁ Unit} {last₂ : Act σ₂ Unit} (h : Alike R Q a₁ a₂)
    (hlast : Alike R Eq last₁ last₂) : Alike R Q (a₁.andFinally last₁) (a₂.andFinally last₂) :=
  h.caught.bind fun _ _ hresult => hlast.bindSame fun _ => alike_given hresult

theorem Alike.onFault {handler₁ : Fault → Act σ₁ α₁} {handler₂ : Fault → Act σ₂ α₂}
    (h : Alike R Q a₁ a₂) (hhandler : ∀ f, Alike R Q (handler₁ f) (handler₂ f)) :
    Alike R Q (a₁.onFault handler₁) (a₂.onFault handler₂) := by
  refine h.caught.bind fun result₁ result₂ hresult => ?_
  cases hresult with
  | ok hxy => exact alike_pure hxy
  | error r =>
    rcases r with f | f
    · exact alike_raise (.failure f)
    · exact hhandler f

theorem Alike.filterMapM {γ : Type} {f₁ : γ → Act σ₁ (Option β)} {f₂ : γ → Act σ₂ (Option β)}
    (hf : ∀ x, Alike R Eq (f₁ x) (f₂ x)) (xs : List γ) :
    Alike R Eq (xs.filterMapM f₁) (xs.filterMapM f₂) := by
  have hloop : ∀ found, Alike R Eq (List.filterMapM.loop f₁ xs found)
      (List.filterMapM.loop f₂ xs found) := by
    induction xs with
    | nil => exact fun found => alike_pure rfl
    | cons x xs ih =>
      refine fun found => (hf x).bindSame fun result => ?_
      cases result with
      | none => exact ih found
      | some b => exact ih (b :: found)
  exact hloop []

end Act

/-- Rows that come in alike. -/
inductive Rows.Alike (R : σ₁ → σ₂ → Prop) : Rows σ₁ → Rows σ₂ → Prop
  | done : Alike R .done .done
  | broken (r : Raised) : Alike R (.broken r) (.broken r)
  | row (cells : List Cell) {rest₁ rest₂} : Alike R rest₁ rest₂ →
      Alike R (.row cells rest₁) (.row cells rest₂)
  | fetch {move₁ : σ₁ → σ₁} {move₂ : σ₂ → σ₂} {next₁ next₂} :
      (∀ w₁ w₂, R w₁ w₂ → R (move₁ w₁) (move₂ w₂)) →
      (∀ w₁ w₂, R w₁ w₂ → Alike R (next₁ w₁) (next₂ w₂)) →
      Alike R (.fetch move₁ next₁) (.fetch move₂ next₂)

section Handles

variable {R : σ₁ → σ₂ → Prop}

theorem Rows.Alike.batch {rest₁ : Rows σ₁} {rest₂ : Rows σ₂} (h : Rows.Alike R rest₁ rest₂)
    (batch : List (List Cell)) : Rows.Alike R (batch.foldr Rows.row rest₁) (batch.foldr Rows.row rest₂) := by
  induction batch with
  | nil => exact h
  | cons cells batch ih => exact .row cells ih

theorem Rows.Alike.fold {step₁ : β → List Cell → Act σ₁ (ForInStep β)}
    {step₂ : β → List Cell → Act σ₂ (ForInStep β)}
    (hstep : ∀ b cells, Act.Alike R Eq (step₁ b cells) (step₂ b cells)) {rows₁ : Rows σ₁} {rows₂ : Rows σ₂}
    (h : Rows.Alike R rows₁ rows₂) (b : β) : Act.Alike R Eq (rows₁.fold step₁ b) (rows₂.fold step₂ b) := by
  induction h generalizing b with
  | done => exact Act.alike_pure rfl
  | broken r => exact Act.alike_raise r
  | row cells _ ih =>
    refine (hstep b cells).bindSame fun next => ?_
    cases next with
    | done b => exact Act.alike_pure rfl
    | yield b => exact ih b
  | fetch hmove _ ih =>
    refine Act.alike_outside.bind fun w₁ w₂ hw => ?_
    exact (Act.alike_change hmove).bindSame fun _ => ih w₁ w₂ hw b

structure Cursor.Alike (R : σ₁ → σ₂ → Prop) (c₁ : Cursor σ₁) (c₂ : Cursor σ₂) : Prop where
  columns : Act.Alike R Eq c₁.columns c₂.columns
  rows : Rows.Alike R c₁.rows c₂.rows
  close : Act.Alike R Eq c₁.close c₂.close

structure Handle.Alike (R : σ₁ → σ₂ → Prop) (h₁ : Handle σ₁) (h₂ : Handle σ₂) : Prop where
  execute : ∀ sql timeout, Act.Alike R (Cursor.Alike R) (h₁.execute sql timeout) (h₂.execute sql timeout)
  ping : ∀ timeout, Act.Alike R Eq (h₁.ping timeout) (h₂.ping timeout)
  dispose : Act.Alike R Eq h₁.dispose h₂.dispose
  circuit : ∀ w₁ w₂, R w₁ w₂ → h₁.circuit w₁ = h₂.circuit w₂

theorem Handle.Alike.checkHealth {h₁ : Handle σ₁} {h₂ : Handle σ₂} (h : Handle.Alike R h₁ h₂)
    (timeout : Amount) : Act.Alike R Eq (checkHealth h₁ timeout) (checkHealth h₂ timeout) := by
  refine (h.ping timeout).caughtSame.bindSame fun result => ?_
  rcases result with (f | f) | ⟨⟩
  · refine (Act.alike_log _ _ _).bindSame fun _ => Act.alike_outside.bind fun w₁ w₂ hw => ?_
    rw [h.circuit w₁ w₂ hw]
    exact Act.alike_pure rfl
  · exact Act.alike_raise (.fault f)
  · refine Act.alike_outside.bind fun w₁ w₂ hw => ?_
    rw [h.circuit w₁ w₂ hw]
    exact Act.alike_pure rfl

end Handles

end QueryGate
