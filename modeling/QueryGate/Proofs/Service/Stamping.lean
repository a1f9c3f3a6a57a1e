import QueryGate.Connection.Rehearsal
import QueryGate.Proofs.Service.Discovery
import QueryGate.Service.Batch
import QueryGate.Service.Health
/-! The lines that the services log. Each carries the id that the session has when the call begins, and
the session keeps it; a handle may add lines of its own, as its workers do. -/

namespace QueryGate

variable {σ α β : Type} {own : LogEntry → Prop}

/-- A session and the same session later on: the id is the same, and the lines since then carry it or
are the handle's own. -/
structure Session.Extends (own : LogEntry → Prop) (s s' : Session σ) : Prop where
  trace : s'.trace = s.trace
  log : ∃ lines, s'.log = s.log ++ lines ∧ ∀ line ∈ lines, line.trace = s.trace ∨ own line

namespace Session.Extends

theorem of_same {s s' : Session σ} (htrace : s'.trace = s.trace) (hlog : s'.log = s.log) :
    s.Extends own s' :=
  ⟨htrace, [], by rw [hlog, List.append_nil], List.forall_mem_nil _⟩

theorem refl (s : Session σ) : s.Extends own s :=
  of_same rfl rfl

theorem trans {s₁ s₂ s₃ : Session σ} (h : s₁.Extends own s₂) (h' : s₂.Extends own s₃) :
    s₁.Extends own s₃ := by
  obtain ⟨htrace, first, hfirst, hall⟩ := h
  obtain ⟨htrace', second, hsecond, hall'⟩ := h'
  refine ⟨htrace'.trans htrace, first ++ second, by rw [hsecond, hfirst, List.append_assoc], ?_⟩
  rw [htrace] at hall'
  exact List.forall_mem_append.mpr ⟨hall, hall'⟩

end Session.Extends

/-- The call keeps the id of the session and stamps what it logs with it. -/
def Act.Stamps (own : LogEntry → Prop) (a : Act σ α) : Prop :=
  ∀ s : Session σ, s.Extends own (a.outcome s).2

namespace Act

theorem stamps_pure (x : α) : (pure x : Act σ α).Stamps own :=
  fun s => .refl s

theorem stamps_raise (r : Raised) : (raise r : Act σ α).Stamps own :=
  fun s => .refl s

theorem stamps_fail (kind : FailureKind) (message : String) (cause : Option FaultKind) :
    (fail kind message cause : Act σ α).Stamps own :=
  fun s => .refl s

theorem stamps_outside : (outside : Act σ σ).Stamps own :=
  fun s => .refl s

theorem stamps_given (value : Except Raised α) : (given value : Act σ α).Stamps own := by
  intro s
  rw [outcome_given]
  exact .refl s

theorem stamps_change (f : σ → σ) : (change f).Stamps own :=
  fun _ => .of_same rfl rfl

theorem stamps_step (f : σ → α × σ) : (step f).Stamps own :=
  fun _ => .of_same rfl rfl

theorem stamps_log (level : LogLevel) (logger message : String) :
    (log level logger message : Act σ Unit).Stamps own :=
  fun _ => ⟨rfl, _, rfl, by simp⟩

/-- What follows has to stamp only what can come out of the first call. -/
theorem Stamps.bind_of {a : Act σ α} {f : α → Act σ β} (h : a.Stamps own)
    (hf : ∀ s x s', a.outcome s = (.ok x, s') → (f x).Stamps own) : (a >>= f).Stamps own := by
  intro s
  have hs := h s
  rw [outcome_bind]
  cases ha : a.outcome s with
  | mk result s' =>
    rw [ha] at hs
    cases result with
    | error r => exact hs
    | ok x => exact hs.trans (hf s x s' ha s')

theorem Stamps.bind {a : Act σ α} {f : α → Act σ β} (h : a.Stamps own)
    (hf : ∀ x, (f x).Stamps own) : (a >>= f).Stamps own :=
  h.bind_of fun _ x _ _ => hf x

theorem Stamps.caught {a : Act σ α} (h : a.Stamps own) : a.caught.Stamps own := by
  intro s
  rw [outcome_caught]
  exact h s

theorem Stamps.andFinally {a : Act σ α} {last : Act σ Unit} (h : a.Stamps own)
    (hlast : last.Stamps own) : (a.andFinally last).Stamps own :=
  h.caught.bind fun _ => hlast.bind fun _ => stamps_given _

theorem Stamps.onFault {a : Act σ α} {handler : Fault → Act σ α} (h : a.Stamps own)
    (hhandler : ∀ f, (handler f).Stamps own) : (a.onFault handler).Stamps own := by
  refine h.caught.bind fun result => ?_
  rcases result with (f | f) | x
  · exact stamps_raise _
  · exact hhandler f
  · exact stamps_pure x

end Act

structure Cursor.Stamps (own : LogEntry → Prop) (cursor : Cursor σ) : Prop where
  columns : cursor.columns.Stamps own
  close : cursor.close.Stamps own

/-- A handle that stamps its lines, and those of its cursors, but for some of its own. -/
structure Handle.Stamps (own : LogEntry → Prop) (handle : Handle σ) : Prop where
  execute : ∀ text timeout, (handle.execute text timeout).Stamps own
  cursor : ∀ text timeout s cursor s',
    (handle.execute text timeout).outcome s = (.ok cursor, s') → cursor.Stamps own
  ping : ∀ timeout, (handle.ping timeout).Stamps own
  dispose : handle.dispose.Stamps own

/-! Queries. -/

theorem Cursor.Stamps.use {cursor : Cursor σ} (h : cursor.Stamps own) {body : Cursor σ → Act σ α}
    (hbody : (body cursor).Stamps own) : (cursor.use body).Stamps own :=
  hbody.andFinally h.close

theorem Cursor.Stamps.readColumns {cursor : Cursor σ} (h : cursor.Stamps own) :
    cursor.readColumns.Stamps own :=
  h.columns.onFault fun _ => Act.stamps_fail _ _ _

theorem givenOrFail_stamps (value : Except Failure α) : (givenOrFail value : Act σ α).Stamps own := by
  cases value with
  | ok a => exact Act.stamps_pure a
  | error f => exact Act.stamps_raise _

theorem scanRows_stamps (nullText : String) (width : Nat) (rows : Rows σ) (done : Scanned) :
    (scanRows nullText width rows done).Stamps own := by
  have hfault : ∀ index r, (scanRows.scanFault index r : Act σ Scanned).Stamps own := by
    intro index r
    cases r <;> exact Act.stamps_raise _
  induction rows generalizing done with
  | done => exact Act.stamps_pure done
  | broken r => exact hfault done.count r
  | row cells rest ih =>
    unfold scanRows
    cases scanRow nullText width done.count cells with
    | ok texts => exact ih _
    | error r => exact hfault done.count r
  | fetch move next ih =>
    exact Act.stamps_outside.bind fun before => (Act.stamps_change move).bind fun _ => ih before done

theorem Rows.fold_stamps {step : β → List Cell → Act σ (ForInStep β)}
    (h : ∀ b cells, (step b cells).Stamps own) (rows : Rows σ) (b : β) :
    (rows.fold step b).Stamps own := by
  induction rows generalizing b with
  | done => exact Act.stamps_pure b
  | broken r => exact Act.stamps_raise r
  | row cells rest ih =>
    refine (h b cells).bind fun next => ?_
    cases next with
    | done b => exact Act.stamps_pure b
    | yield b => exact ih b
  | fetch move next ih =>
    exact Act.stamps_outside.bind fun before => (Act.stamps_change move).bind fun _ => ih before b

theorem prepare_stamps (plan : ServicePlan) (r : Request) :
    (prepare plan r : Act σ String).Stamps own := by
  refine (givenOrFail_stamps _).bind fun statement => Act.Stamps.bind ?_ fun _ =>
    (Act.stamps_log _ _ _).bind fun _ => Act.stamps_pure _
  unfold validateLogged
  cases validate plan.denied statement with
  | ok tree => exact Act.stamps_pure ()
  | error j =>
    cases j with
    | deniedWord word => exact (Act.stamps_log _ _ _).bind fun _ => Act.stamps_raise _
    | _ => exact Act.stamps_raise _

theorem readResult_stamps (plan : ServicePlan) (shape : OutputShape) {cursor : Cursor σ}
    (h : cursor.Stamps own) : (readResult plan shape cursor).Stamps own :=
  h.readColumns.bind fun _ => (givenOrFail_stamps _).bind fun _ =>
    (scanRows_stamps _ _ _ _).bind fun _ => Act.stamps_pure _

theorem pickNames_stamps (index : Nat) (cursor : Cursor σ) :
    (pickNames index cursor).Stamps own := by
  refine (cursor.rows.fold_stamps (fun names cells => ?_) []).bind fun _ => Act.stamps_pure _
  exact (Act.stamps_given _).bind fun _ => Act.stamps_pure _

theorem pickColumns_stamps (cursor : Cursor σ) : (pickColumns cursor).Stamps own := by
  refine (cursor.rows.fold_stamps (fun names cells => ?_) []).bind fun _ => Act.stamps_pure _
  refine (Act.stamps_given _).bind fun name => ?_
  cases name with
  | some name => exact Act.stamps_pure _
  | none => exact Act.stamps_pure _

theorem Cursor.Stamps.pick {cursor : Cursor σ} (hcursor : cursor.Stamps own) (l : Lookup) :
    (l.pick cursor).Stamps own := by
  cases l with
  | schemas catalog => exact pickNames_stamps 0 cursor
  | tables catalog schema => exact hcursor.columns.bind fun _ => pickNames_stamps _ cursor
  | columns catalog schema table => exact pickColumns_stamps cursor

variable {handle : Handle σ} (h : handle.Stamps own)

include h

theorem Handle.Stamps.executeQuery (plan : ServicePlan) (r : Request) :
    (executeQuery plan handle r).Stamps own := by
  refine (prepare_stamps plan r).bind fun text => (h.execute text _).bind_of fun s cursor s' hc => ?_
  have hcursor := h.cursor text _ s cursor s' hc
  exact (hcursor.use (readResult_stamps plan r.shape hcursor)).bind fun _ =>
    (Act.stamps_log _ _ _).bind fun _ => Act.stamps_pure _

theorem Handle.Stamps.serveRaw (plan : ServicePlan) (key : String) (raw : Json) :
    (serveRaw plan handle key raw).Stamps own := by
  have hresponse : ∀ r, (respond plan handle key r).Stamps own := by
    intro r
    refine (h.executeQuery plan r).caught.bind fun result => ?_
    rcases result with (f | f) | frame
    · exact (Act.stamps_log _ _ _).bind fun _ => Act.stamps_pure _
    · exact (Act.stamps_log _ _ _).bind fun _ => Act.stamps_pure _
    · exact Act.stamps_pure _
  unfold QueryGate.serveRaw
  cases Request.read raw with
  | wrong i more => exact (Act.stamps_log _ _ _).bind fun _ => Act.stamps_pure _
  | ok r =>
    dsimp only
    split
    · exact (hresponse r).bind fun _ => Act.stamps_pure _
    · exact Act.stamps_pure _

theorem Handle.Stamps.serveBatch (plan : ServicePlan) (index : Nat) (done : Members Response)
    (queries : List Json) : (serveBatch plan handle index done queries).Stamps own := by
  induction queries generalizing index done with
  | nil => exact Act.stamps_pure done
  | cons raw rest ih =>
    refine (Act.stamps_given _).bind fun key => (h.serveRaw plan key raw).bind fun response => ?_
    cases response with
    | none => exact ih _ _
    | some response => exact ih _ _

/-! Health and lookups. -/

theorem Handle.Stamps.checkHealth (timeout : Amount) : (checkHealth handle timeout).Stamps own := by
  refine (h.ping timeout).caught.bind fun result => ?_
  rcases result with (f | f) | ⟨⟩
  · exact (Act.stamps_log _ _ _).bind fun _ => Act.stamps_outside.bind fun _ => Act.stamps_pure _
  · exact Act.stamps_raise _
  · exact Act.stamps_outside.bind fun _ => Act.stamps_pure _

theorem Handle.Stamps.runLookup (timeout : Amount) (l : Lookup) :
    (l.run handle timeout).Stamps own := by
  rw [Lookup.run_eq, requireParts_eq]
  refine Act.Stamps.bind ?_ fun _ => Act.Stamps.onFault ?_ fun f =>
    (Act.stamps_log _ _ _).bind fun _ => Act.stamps_fail _ _ _
  · split
    · exact Act.stamps_raise _
    · exact Act.stamps_pure ()
  · refine (h.execute l.statement timeout).bind_of fun s cursor s' hc => ?_
    have hcursor := h.cursor l.statement timeout s cursor s' hc
    exact hcursor.use (hcursor.pick l)

theorem Handle.Stamps.callResource (timeout : Amount) (defaultCatalog path : String)
    (p : Parameters) : (callResource handle timeout defaultCatalog path p).Stamps own := by
  rw [callResource_eq]
  cases resourceLookup? defaultCatalog path p with
  | some l => exact (h.runLookup timeout l).bind fun _ => Act.stamps_given _
  | none => exact (Act.stamps_log _ _ _).bind fun _ => Act.stamps_fail _ _ _

end QueryGate
