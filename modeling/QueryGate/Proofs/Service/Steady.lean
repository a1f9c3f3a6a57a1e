import QueryGate.Proofs.Service.Course
/-! Handles whose answers depend on the text of the statement alone. What a query gives over such a
handle does not depend on the session in which it runs. -/

namespace QueryGate

variable {σ α : Type}

/-- The call gives the same from every session. It may change the session as it likes. -/
def Act.Always (a : Act σ α) (result : Except Raised α) : Prop :=
  ∀ s, (a.outcome s).1 = result

namespace Act

variable {β : Type}

theorem always_pure (x : α) : (pure x : Act σ α).Always (.ok x) :=
  fun _ => rfl

theorem always_raise (r : Raised) : (raise r : Act σ α).Always (.error r) :=
  fun _ => rfl

theorem always_log (level : LogLevel) (logger message : String) :
    (log level logger message : Act σ Unit).Always (.ok ()) :=
  fun _ => rfl

theorem Always.bind {a : Act σ α} {f : α → Act σ β} {result : Except Raised α}
    {g : α → Except Raised β} (h : a.Always result) (hf : ∀ x, (f x).Always (g x)) :
    (a >>= f).Always (result >>= g) := by
  intro s
  rw [outcome_bind, ← h s]
  rcases a.outcome s with ⟨r | x, s'⟩
  · rfl
  · exact hf x s'

theorem Always.bind_ok {a : Act σ α} {x : α} {f : α → Act σ β} {result : Except Raised β}
    (h : a.Always (.ok x)) (hf : (f x).Always result) : (a >>= f).Always result := by
  intro s
  have hs := h s
  rw [outcome_bind]
  generalize a.outcome s = o at hs
  obtain ⟨_, s'⟩ := o
  simp only at hs
  rw [hs]
  exact hf s'

theorem Always.bind_error {a : Act σ α} {r : Raised} (h : a.Always (.error r)) (f : α → Act σ β) :
    (a >>= f).Always (.error r) := by
  intro s
  have hs := h s
  rw [outcome_bind]
  generalize a.outcome s = o at hs
  obtain ⟨_, s'⟩ := o
  simp only at hs
  rw [hs]

theorem Always.caught {a : Act σ α} {result : Except Raised α} (h : a.Always result) :
    (caught a).Always (.ok result) := by
  intro s
  rw [outcome_caught, h s]

theorem Always.andFinally {a : Act σ α} {last : Act σ Unit} {result : Except Raised α}
    {closing : Except Raised Unit} (h : a.Always result) (hlast : last.Always closing) :
    (andFinally a last).Always (closing >>= fun _ => result) := by
  intro s
  rw [outcome_andFinally, ← h s, ← hlast (a.outcome s).2]
  rcases last.outcome (a.outcome s).2 with ⟨r | ⟨⟩, s'⟩ <;> rfl

end Act

/-- All that comes out of an open result. -/
structure Reply where
  columns : Except Raised (List String)
  rows : List (List Cell)
  /-- The error after the rows if there is one. -/
  last : Option Raised
  close : Except Raised Unit

structure Cursor.Gives (cursor : Cursor σ) (reply : Reply) : Prop where
  columns : cursor.columns.Always reply.columns
  rows : ∀ w, cursor.rows.deliver w = (reply.rows, reply.last)
  close : cursor.close.Always reply.close

/-- Every text has one answer: an error, or a result that gives one reply. -/
def Handle.IsSteady (handle : Handle σ) (timeout : Amount) : Prop :=
  ∀ text, (∃ r, (handle.execute text timeout).Always (.error r)) ∨
    ∃ reply, ∀ s, ∃ cursor : Cursor σ,
      ((handle.execute text timeout).outcome s).1 = .ok cursor ∧ cursor.Gives reply

/-! Rehearsed handles. -/

theorem Rows.deliver_ofList (last : Option Raised) (rows : List (List Cell)) (w : σ) :
    (Rows.ofList last rows : Rows σ).deliver w = (rows, last) := by
  induction rows with
  | nil => cases last <;> rfl
  | cons cells rest ih => simp only [ofList, deliver, ih]

theorem rehearsedCursor_gives (i : Nat) (script : ResultScript) :
    (rehearsedCursor i script).Gives ⟨script.columns, script.rows, script.last, .ok ()⟩ where
  columns s := by simp only [rehearsedCursor, Act.outcome_bind, Act.outcome_change, Act.outcome_given]
  rows w := Rows.deliver_ofList script.last script.rows w
  close _ := rfl

/-- A rehearsed handle is steady if its answers do not depend on how many came before. -/
theorem Rehearsal.handle_isSteady {rehearsal : Rehearsal}
    (h : ∀ count text, rehearsal.answer count text = rehearsal.answer 0 text) (timeout : Amount) :
    rehearsal.handle.IsSteady timeout := by
  intro text
  cases ha : rehearsal.answer 0 text with
  | error r =>
    refine .inl ⟨r, fun s => ?_⟩
    simp only [handle, Act.outcome_bind, Act.outcome_outside, Act.outcome_change, Act.outcome_given,
      h, ha]
  | ok script =>
    refine .inr ⟨⟨script.columns, script.rows, script.last, .ok ()⟩, fun s => ?_⟩
    refine ⟨_, ?_, rehearsedCursor_gives s.outside.cursors.length script⟩
    simp only [handle, Act.outcome_bind, Act.outcome_outside, Act.outcome_change, Act.outcome_given,
      h, ha, openRehearsed, Act.outcome_step, Record.request]

/-! A query over a steady handle. -/

/-- What reading a reply gives, its columns first. -/
def Reply.frame (plan : ServicePlan) (shape : OutputShape) (reply : Reply) : Except Raised Frame := do
  let names ← reply.columns.mapError fun r => .failure (columnsError r)
  (requireTimeColumn shape names).mapError Raised.failure
  let scanned ← scanAll plan.nullText names.length reply.last reply.rows ⟨0, []⟩
  return Frame.ofRows defaultFrameName names scanned.rows.reverse

/-- What using a reply gives. An error of closing takes the place of what was read. -/
def Reply.result (plan : ServicePlan) (shape : OutputShape) (reply : Reply) : Except Raised Frame := do
  reply.close
  reply.frame plan shape

theorem givenOrFail_always (value : Except Failure α) :
    (givenOrFail value : Act σ α).Always (value.mapError Raised.failure) := by
  cases value with
  | ok a => exact Act.always_pure a
  | error f => exact Act.always_raise _

theorem readResult_always (plan : ServicePlan) (shape : OutputShape) {cursor : Cursor σ}
    {reply : Reply} (h : cursor.Gives reply) :
    (readResult plan shape cursor).Always (reply.frame plan shape) := by
  have hcolumns : cursor.readColumns.Always
      (reply.columns.mapError fun r => .failure (columnsError r)) := by
    intro s
    rw [readColumns_outcome, h.columns s]
  refine hcolumns.bind fun names => (givenOrFail_always _).bind fun _ => ?_
  refine Act.Always.bind (fun s => ?_) fun scanned => Act.always_pure _
  rw [scanRows_result, h.rows]

theorem prepare_always (plan : ServicePlan) (r : Request) :
    ∃ result, (prepare plan r : Act σ String).Always result := by
  have hjudged : ∀ statement, ∃ result,
      (validateLogged plan.denied statement : Act σ Unit).Always result := by
    intro statement
    unfold validateLogged
    cases validate plan.denied statement with
    | ok tree => exact ⟨_, Act.always_pure ()⟩
    | error j => cases j <;> exact ⟨.error _, fun _ => rfl⟩
  choose judged hjudged using hjudged
  exact ⟨_, (givenOrFail_always r.resolve).bind fun statement =>
    (hjudged statement).bind fun _ => (Act.always_log _ _ _).bind fun _ => Act.always_pure _⟩

/-- What a query gives over a steady handle is the same from every session. -/
theorem executeQuery_always {plan : ServicePlan} {handle : Handle σ}
    (h : handle.IsSteady plan.timeout) (r : Request) :
    ∃ result, (executeQuery plan handle r).Always result := by
  have hsent : ∀ text, ∃ result, (do
      let cursor ← handle.execute text plan.timeout
      let frame ← cursor.use (readResult plan r.shape)
      Act.log .info queryLogger s!"Query {r.refId} returned {frame.rowCount} rows"
      return frame : Act σ Frame).Always result := by
    intro text
    rcases h text with ⟨e, he⟩ | ⟨reply, hreply⟩
    · exact ⟨.error e, he.bind_error _⟩
    · have hread : ∀ cursor : Cursor σ, cursor.Gives reply → (do
          let frame ← cursor.use (readResult plan r.shape)
          Act.log .info queryLogger s!"Query {r.refId} returned {frame.rowCount} rows"
          return frame : Act σ Frame).Always
          (reply.result plan r.shape) := by
        intro cursor hc
        rw [← bind_pure (reply.result plan r.shape)]
        exact ((readResult_always plan r.shape hc).andFinally hc.close).bind fun _ =>
          (Act.always_log _ _ _).bind fun _ => Act.always_pure _
      refine ⟨reply.result plan r.shape, fun s => ?_⟩
      obtain ⟨cursor, hx, hc⟩ := hreply s
      rw [Act.outcome_bind]
      generalize (handle.execute text plan.timeout).outcome s = o at hx
      obtain ⟨_, s'⟩ := o
      simp only at hx
      rw [hx]
      exact hread cursor hc s'
  choose sent hsent using hsent
  obtain ⟨prepared, hprepared⟩ := prepare_always (σ := σ) plan r
  exact ⟨_, hprepared.bind hsent⟩

end QueryGate
