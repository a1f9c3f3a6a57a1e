import QueryGate.Connection.Rehearsal
import QueryGate.Proofs.Service.Watch
import QueryGate.Proofs.Statement.Adapted
import QueryGate.Service.Batch
/-! What the services send. A request sends at most one text, and only if its statement was accepted;
the text is that statement, adapted, and no denied word is in it. -/

namespace QueryGate

variable {σ : Type}

/-- The text a request sends is the adapted form of the statement, which the policy accepted. -/
structure Request.Admits (plan : ServicePlan) (r : Request) (statement text : String) : Prop where
  resolved : r.resolve = .ok statement
  accepted : ∃ tree, validate plan.denied statement = .ok tree
  adapted : text = adaptStatement statement plan.catalog plan.rowCap

/-- Neither a statement nor a definition that gives one the policy accepts. -/
def Request.IsRefused (plan : ServicePlan) (r : Request) : Prop :=
  ∀ statement, r.resolve = .ok statement → ∃ j, validate plan.denied statement = .error j

/-- The texts that a request sends. -/
def Request.outgoing (plan : ServicePlan) (r : Request) : List String :=
  match r.resolve with
  | .error _ => []
  | .ok statement =>
    match validate plan.denied statement with
    | .error _ => []
    | .ok _ => [adaptStatement statement plan.catalog plan.rowCap]

theorem Request.outgoing_of_admits {plan : ServicePlan} {r : Request} {statement text : String}
    (h : r.Admits plan statement text) : r.outgoing plan = [text] := by
  obtain ⟨tree, ht⟩ := h.accepted
  simp only [outgoing, h.resolved, ht, h.adapted]

theorem Request.outgoing_of_isRefused {plan : ServicePlan} {r : Request}
    (h : r.IsRefused plan) : r.outgoing plan = [] := by
  unfold outgoing
  cases hr : r.resolve with
  | error f => rfl
  | ok statement =>
    obtain ⟨j, hj⟩ := h statement hr
    simp only [hj]

example : Request.outgoing ⟨"main", 10, .whole 60, "NULL", defaultDenied⟩
    ⟨"A", some "SELECT 1 FROM s.t;", .table, none⟩ = ["SELECT 1 FROM main.s.t LIMIT 10;"] := by
  decide +kernel

theorem Request.isRefused_or_admits (plan : ServicePlan) (r : Request) :
    r.IsRefused plan ∨ ∃ statement text, r.Admits plan statement text := by
  cases hr : r.resolve with
  | error f =>
    refine Or.inl fun statement h => ?_
    rw [hr] at h
    cases h
  | ok statement =>
    cases hv : validate plan.denied statement with
    | error j =>
      refine Or.inl fun statement' h => ⟨j, ?_⟩
      rw [hr, Except.ok.injEq] at h
      rw [← h, hv]
    | ok tree => exact Or.inr ⟨statement, _, hr, ⟨tree, hv⟩, rfl⟩

theorem Request.mem_outgoing_iff {plan : ServicePlan} {r : Request} {text : String} :
    text ∈ r.outgoing plan ↔ ∃ statement, r.Admits plan statement text := by
  constructor
  · intro h
    rcases r.isRefused_or_admits plan with hr | ⟨statement, text', ha⟩
    · simp [outgoing_of_isRefused hr] at h
    · rw [outgoing_of_admits ha, List.mem_singleton] at h
      exact ⟨statement, h ▸ ha⟩
  · rintro ⟨statement, ha⟩
    simp [outgoing_of_admits ha]

/-- The texts that a raw query sends: none unless it reads as a request that asks for something. -/
def outgoingOfRaw (plan : ServicePlan) (raw : Json) : List String :=
  match Request.read raw with
  | .wrong _ _ => []
  | .ok r => if r.hasStatement || r.visual.isSome then r.outgoing plan else []

theorem mem_outgoingOfRaw {plan : ServicePlan} {raw : Json} {text : String}
    (h : text ∈ outgoingOfRaw plan raw) :
    ∃ r statement, Request.read raw = .ok r ∧ r.Admits plan statement text := by
  unfold outgoingOfRaw at h
  cases hr : Request.read raw with
  | wrong i more => simp [hr] at h
  | ok r =>
    simp only [hr] at h
    split at h
    · obtain ⟨statement, ha⟩ := Request.mem_outgoing_iff.mp h
      exact ⟨r, statement, rfl, ha⟩
    · simp at h

theorem outgoingOfRaw_of_isRefused {plan : ServicePlan} {raw : Json}
    (h : ∀ r, Request.read raw = .ok r → r.IsRefused plan) : outgoingOfRaw plan raw = [] := by
  unfold outgoingOfRaw
  cases hr : Request.read raw with
  | wrong i more => rfl
  | ok r => simp only [Request.outgoing_of_isRefused (h r hr), ite_self]

/-! The watched run of each part of a service. -/

theorem readColumns_watched (cursor : Cursor σ) :
    cursor.watched.readColumns = cursor.readColumns.noting [] := by
  unfold Cursor.readColumns
  rw [Act.noting_onFault]
  congr 1
  funext f
  exact (Act.noting_raise _).symm

theorem scanRows_watched (nullText : String) (width : Nat) (rows : Rows σ) (done : Scanned) :
    scanRows nullText width rows.watched done = (scanRows nullText width rows done).noting [] := by
  have hfault : ∀ (index : Nat) (r : Raised), scanRows.scanFault index r
      = (scanRows.scanFault index r : Act σ Scanned).noting [] := by
    intro index r
    cases r <;> exact (Act.noting_raise _).symm
  induction rows generalizing done with
  | done => exact (Act.noting_pure _).symm
  | broken r => exact hfault _ r
  | row cells rest ih =>
    simp only [Rows.watched, scanRows]
    cases scanRow nullText width done.count cells with
    | ok texts => exact ih _
    | error r => exact hfault _ r
  | fetch move next ih =>
    simp only [Rows.watched, scanRows, ih]
    apply Act.ext_outcome
    intro s
    simp [Act.outcome_bind, Session.plain, Session.withNotes]

theorem materialize_watched (cursor : Cursor σ) (nullText name : String)
    (columns : Option (List String)) :
    materialize cursor.watched nullText name columns =
      (materialize cursor nullText name columns).noting [] := by
  have hrows : cursor.watched.rows = cursor.rows.watched := rfl
  cases columns with
  | none =>
    simp only [materialize, Act.noting_bind, Act.noting_pure, readColumns_watched, hrows,
      scanRows_watched]
  | some names =>
    simp only [materialize, Act.noting_bind, Act.noting_pure, hrows, scanRows_watched]

theorem givenOrFail_watched {α : Type} (value : Except Failure α) :
    (givenOrFail value : Act (σ × List String) α) = (givenOrFail value : Act σ α).noting [] := by
  cases value with
  | ok a => exact (Act.noting_pure a).symm
  | error f => exact (Act.noting_raise _).symm

theorem use_readResult_watched (plan : ServicePlan) (shape : OutputShape) (cursor : Cursor σ) :
    cursor.watched.use (readResult plan shape) =
      (cursor.use (readResult plan shape)).noting [] := by
  unfold Cursor.use
  rw [Act.noting_andFinally]
  congr 1
  simp only [readResult, Act.noting_bind, readColumns_watched, materialize_watched,
    givenOrFail_watched]

theorem validateLogged_watched (denied : List String) (sql : String) :
    (validateLogged denied sql : Act (σ × List String) Unit) =
      (validateLogged denied sql : Act σ Unit).noting [] := by
  unfold validateLogged
  cases validate denied sql with
  | ok tree => exact (Act.noting_pure _).symm
  | error j =>
    cases j <;> simp only [failWith, Act.noting_bind, Act.noting_log, Act.noting_raise]

theorem prepare_watched (plan : ServicePlan) (r : Request) :
    (prepare plan r : Act (σ × List String) String) = (prepare plan r : Act σ String).noting [] := by
  simp only [prepare, Act.noting_bind, givenOrFail_watched, validateLogged_watched, Act.noting_log,
    Act.noting_pure]

theorem prepare_of_admits {plan : ServicePlan} {r : Request} {statement text : String}
    (h : r.Admits plan statement text) :
    (prepare plan r : Act σ String) =
      Act.log .info queryLogger ("Adapted statement [" ++ r.refId ++ "]: " ++ text) >>= fun _ => pure text := by
  obtain ⟨tree, ht⟩ := h.accepted
  simp only [prepare, h.resolved, givenOrFail, validateLogged, ht, pure_bind, h.adapted]

theorem prepare_alwaysRaises {plan : ServicePlan} {r : Request} (h : r.IsRefused plan) :
    (prepare plan r : Act σ String).AlwaysRaises := by
  intro s
  unfold prepare
  cases hr : r.resolve with
  | error f => exact ⟨.failure f, by simp [givenOrFail, failWith, Act.outcome_bind]⟩
  | ok statement =>
    obtain ⟨j, hj⟩ := h statement hr
    refine ⟨.failure j.failure, ?_⟩
    cases j <;>
      simp [givenOrFail, validateLogged, hj, failWith, Act.outcome_bind]

theorem execute_watched (handle : Handle σ) (text : String) (timeout : Amount) {α : Type}
    (body : Cursor (σ × List String) → Act (σ × List String) α) (plain : Cursor σ → Act σ α)
    (h : ∀ cursor : Cursor σ, body cursor.watched = (plain cursor).noting []) :
    handle.watched.execute text timeout >>= body =
      (handle.execute text timeout >>= plain).noting [text] := by
  simp only [Handle.watched, bind_map_left, h, Act.noting_bind]

/-- Watching changes nothing but the notes, which gain what the request sends. -/
theorem executeQuery_watched (plan : ServicePlan) (handle : Handle σ) (r : Request) :
    executeQuery plan handle.watched r =
      (executeQuery plan handle r).noting (r.outgoing plan) := by
  have hsend : ∀ text, (do
        let cursor ← handle.watched.execute text plan.timeout
        let frame ← cursor.use (readResult plan r.shape)
        Act.log .info queryLogger s!"Query {r.refId} returned {frame.rowCount} rows"
        return frame) =
      (do
        let cursor ← handle.execute text plan.timeout
        let frame ← cursor.use (readResult plan r.shape)
        Act.log .info queryLogger s!"Query {r.refId} returned {frame.rowCount} rows"
        return frame).noting [text] := by
    intro text
    refine execute_watched handle text plan.timeout _ _ fun cursor => ?_
    simp only [use_readResult_watched, Act.noting_bind, Act.noting_log, Act.noting_pure]
  rcases r.isRefused_or_admits plan with hr | ⟨statement, text, ha⟩
  · rw [Request.outgoing_of_isRefused hr]
    unfold executeQuery
    rw [prepare_watched, (prepare_alwaysRaises hr).noting_bind]
  · have hlog := Act.neverRaises_log (σ := σ) .info queryLogger
      ("Adapted statement [" ++ r.refId ++ "]: " ++ text)
    rw [Request.outgoing_of_admits ha]
    simp only [executeQuery, prepare_of_admits ha, bind_assoc, pure_bind, hsend]
    rw [← Act.noting_log, hlog.noting_bind, List.nil_append]

/-! A batch. -/

theorem respond_watched (plan : ServicePlan) (handle : Handle σ) (key : String) (r : Request) :
    respond plan handle.watched key r = (respond plan handle key r).noting (r.outgoing plan) := by
  unfold respond
  rw [Act.noting_bind, executeQuery_watched, Act.noting_caught]
  congr 1
  funext result
  rcases result with (f | f) | frame <;>
    simp only [Act.noting_bind, Act.noting_log, Act.noting_pure]

theorem respond_neverRaises (plan : ServicePlan) (handle : Handle σ) (key : String) (r : Request) :
    (respond plan handle key r).NeverRaises := by
  refine (Act.neverRaises_caught _).bind fun result => ?_
  rcases result with (f | f) | frame
  · exact (Act.neverRaises_log _ _ _).bind fun _ => Act.neverRaises_pure _
  · exact (Act.neverRaises_log _ _ _).bind fun _ => Act.neverRaises_pure _
  · exact Act.neverRaises_pure _

theorem serveRaw_watched (plan : ServicePlan) (handle : Handle σ) (key : String) (raw : Json) :
    serveRaw plan handle.watched key raw =
      (serveRaw plan handle key raw).noting (outgoingOfRaw plan raw) := by
  unfold serveRaw outgoingOfRaw
  cases Request.read raw with
  | wrong i more => simp only [Act.noting_bind, Act.noting_log, Act.noting_pure]
  | ok r =>
    dsimp only
    split
    · rw [Act.noting_bind, respond_watched]
      simp only [Act.noting_pure]
    · exact (Act.noting_pure _).symm

theorem serveRaw_neverRaises (plan : ServicePlan) (handle : Handle σ) (key : String) (raw : Json) :
    (serveRaw plan handle key raw).NeverRaises := by
  unfold serveRaw
  cases Request.read raw with
  | wrong i more => exact (Act.neverRaises_log _ _ _).bind fun _ => Act.neverRaises_pure _
  | ok r =>
    dsimp only
    split
    · exact (respond_neverRaises plan handle key r).bind fun _ => Act.neverRaises_pure _
    · exact Act.neverRaises_pure _

/-- The queries of a batch that are served: all of them, or those before the first whose reference
cannot be written. -/
def servedQueries (index : Nat) : List Json → List Json
  | [] => []
  | raw :: rest =>
    match queryKey index raw with
    | .ok _ => raw :: servedQueries (index + 1) rest
    | .error _ => []

theorem servedQueries_isPrefix (index : Nat) (queries : List Json) :
    servedQueries index queries <+: queries := by
  induction queries generalizing index with
  | nil => exact List.nil_prefix
  | cons raw rest ih =>
    unfold servedQueries
    split
    · exact List.cons_prefix_cons.mpr ⟨rfl, ih _⟩
    · exact List.nil_prefix

theorem serveBatch_watched (plan : ServicePlan) (handle : Handle σ) (index : Nat)
    (done : Members Response) (queries : List Json) :
    serveBatch plan handle.watched index done queries =
      (serveBatch plan handle index done queries).noting
        ((servedQueries index queries).flatMap (outgoingOfRaw plan)) := by
  induction queries generalizing index done with
  | nil => exact (Act.noting_pure _).symm
  | cons raw rest ih =>
    unfold serveBatch servedQueries
    cases queryKey index raw with
    | error f => exact (Act.noting_raise _).symm
    | ok key =>
      simp only [Except.mapError, Act.given, pure_bind, serveRaw_watched, List.flatMap_cons]
      rw [← (serveRaw_neverRaises plan handle key raw).noting_bind]
      congr 1
      funext response
      cases response <;> exact ih _ _

/-- For a catalog without denied words, a run over a watched handle notes just the texts that accepted
statements give, none of which holds a denied word, and nothing for a request that is refused. -/
theorem sent_texts_accepted_and_clear (c : ConnectionConfig) (nullText : String) (handle : Handle σ)
    (hcatalog : findDenied defaultDenied c.catalog = none) :
    (∀ r : Request, ∃ sent : List String,
      executeQuery (.ofConfig c nullText) handle.watched r =
        (executeQuery (.ofConfig c nullText) handle r).noting sent ∧
      (∀ text ∈ sent, findDenied defaultDenied text = none ∧
        ∃ statement, r.Admits (.ofConfig c nullText) statement text) ∧
      (r.IsRefused (.ofConfig c nullText) → sent = [])) ∧
    ∀ queries : List Json, ∃ (served : List Json) (sent : Json → List String), served <+: queries ∧
      queryData (.ofConfig c nullText) handle.watched queries =
        (queryData (.ofConfig c nullText) handle queries).noting (served.flatMap sent) ∧
      ∀ raw ∈ served,
        (∀ text ∈ sent raw, findDenied defaultDenied text = none ∧ ∃ r statement,
          Request.read raw = .ok r ∧ r.Admits (.ofConfig c nullText) statement text) ∧
        ((∀ r, Request.read raw = .ok r → r.IsRefused (.ofConfig c nullText)) → sent raw = []) := by
  have hclear : ∀ (r : Request) statement text, r.Admits (.ofConfig c nullText) statement text →
      findDenied defaultDenied text = none := by
    intro r statement text ha
    obtain ⟨tree, ht⟩ := ha.accepted
    rw [ha.adapted]
    exact adaptStatement_clear c.rowCap hcatalog (validate_ok_clear ht)
  constructor
  · intro r
    refine ⟨_, executeQuery_watched _ handle r, fun text h => ?_, Request.outgoing_of_isRefused⟩
    obtain ⟨statement, ha⟩ := Request.mem_outgoing_iff.mp h
    exact ⟨hclear r statement text ha, statement, ha⟩
  · intro queries
    refine ⟨_, outgoingOfRaw _, servedQueries_isPrefix 0 queries, serveBatch_watched _ handle 0 [] queries,
      fun raw _ => ⟨fun text h => ?_, outgoingOfRaw_of_isRefused⟩⟩
    obtain ⟨r, statement, hr, ha⟩ := mem_outgoingOfRaw h
    exact ⟨hclear r statement text ha, r, statement, hr, ha⟩

theorem sent_texts_accepted_and_clear_rehearsed :
    let c : ConnectionConfig :=
      ⟨"", "", "main", "", 10, .whole 60, 0, .whole 0, .whole 0, none, false⟩
    let handle := Rehearsal.handle ⟨fun _ _ => .ok .empty, fun _ => .ok ()⟩
    let r : Request := ⟨"A", some "SELECT 1", .table, none⟩
    findDenied defaultDenied c.catalog = none ∧ ∃ sent : List String,
      executeQuery (.ofConfig c "NULL") handle.watched r =
        (executeQuery (.ofConfig c "NULL") handle r).noting sent ∧
      ∀ text ∈ sent, findDenied defaultDenied text = none := by
  intro c handle r
  have hcatalog : findDenied defaultDenied c.catalog = none := by decide +kernel
  obtain ⟨sent, hrun, hsent, -⟩ := (sent_texts_accepted_and_clear c "NULL" handle hcatalog).1 r
  exact ⟨hcatalog, sent, hrun, fun text h => (hsent text h).1⟩

end QueryGate
