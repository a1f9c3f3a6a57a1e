import QueryGate.Connection.Rehearsal
import QueryGate.Proofs.Service.Delivery
import QueryGate.Proofs.Service.SentTexts
/-! The course of one query: what it asks of the handle and of the cursor, in order, and how it ends. It
ends in a whole frame or in the failure of the first stage that fails, and a cursor that was opened is
closed once, as the last thing asked of it. -/

namespace QueryGate

variable {σ α : Type}

/-- What may be asked of a handle and of a cursor that it opened. -/
inductive Demand
  | execute (text : String)
  | columns
  /-- The next row, or the end of the rows. -/
  | row
  | close
deriving DecidableEq

/-- The session without the demands. -/
def Session.bare (s : Session (σ × List Demand)) : Session σ :=
  ⟨s.outside.1, s.log, s.trace⟩

def Session.withDemands (s : Session σ) (demands : List Demand) : Session (σ × List Demand) :=
  ⟨(s.outside, demands), s.log, s.trace⟩

@[simp] theorem Session.bare_withDemands (s : Session σ) (demands : List Demand) :
    (s.withDemands demands).bare = s := rfl

/-- The call, counted as a demand. -/
def Act.demanding (d : Demand) (a : Act σ α) : Act (σ × List Demand) α :=
  ExceptT.mk fun s =>
    ((a.outcome s.bare).1, (a.outcome s.bare).2.withDemands (s.outside.2 ++ [d]))

theorem Act.outcome_demanding (d : Demand) (a : Act σ α) (s : Session (σ × List Demand)) :
    (a.demanding d).outcome s =
      ((a.outcome s.bare).1, (a.outcome s.bare).2.withDemands (s.outside.2 ++ [d])) := rfl

/-- Each row is demanded before it comes, and so is the end. -/
def Rows.demanded : Rows σ → Rows (σ × List Demand)
  | .done => .fetch (fun w => (w.1, w.2 ++ [.row])) fun _ => .done
  | .broken r => .fetch (fun w => (w.1, w.2 ++ [.row])) fun _ => .broken r
  | .row cells rest => .fetch (fun w => (w.1, w.2 ++ [.row])) fun _ => .row cells rest.demanded
  | .fetch move next => .fetch (fun w => (move w.1, w.2)) fun w => (next w.1).demanded

def Cursor.demanded (cursor : Cursor σ) : Cursor (σ × List Demand) where
  columns := cursor.columns.demanding .columns
  rows := cursor.rows.demanded
  close := cursor.close.demanding .close

/-- A handle beside which all demands are kept in order. -/
def Handle.demanded (handle : Handle σ) : Handle (σ × List Demand) where
  execute text timeout :=
    Cursor.demanded <$> (handle.execute text timeout).demanding (.execute text)
  ping timeout := ExceptT.mk fun s =>
    (((handle.ping timeout).outcome s.bare).1,
      ((handle.ping timeout).outcome s.bare).2.withDemands s.outside.2)
  dispose := ExceptT.mk fun s =>
    ((handle.dispose.outcome s.bare).1, (handle.dispose.outcome s.bare).2.withDemands s.outside.2)
  circuit w := handle.circuit w.1

/-! Reading a result. -/

/-- What becomes of an error of the columns. -/
def columnsError : Raised → Failure
  | .failure f => f
  | .fault f => ⟨.remote, "Failed to read column metadata: " ++ f.message, some f.kind⟩

/-- How reading an open cursor ends, with the number of demands for rows. -/
inductive Cursor.Reads (plan : ServicePlan) (shape : OutputShape) (cursor : Cursor σ)
    (s : Session σ) : Nat → Except Raised Frame → Prop
  | columnless {r : Raised} {s' : Session σ} (h : cursor.columns.outcome s = (.error r, s')) :
    Reads plan shape cursor s 0 (.error (.failure (columnsError r)))
  | shapeless {names : List String} {s' : Session σ}
    (h : cursor.columns.outcome s = (.ok names, s')) (hshape : shape = .timeSeries)
    (hnames : ∀ name ∈ names, isTimeColumn name = false) :
    Reads plan shape cursor s 0
      (.error (.failure ⟨.missingTimeColumn, missingTimeColumnMessage names, none⟩))
  | broken {names : List String} {s' : Session σ} {count : Nat} {f : Failure}
    (h : cursor.columns.outcome s = (.ok names, s'))
    (hshape : shape = .timeSeries → ∃ name ∈ names, isTimeColumn name = true)
    (hrows : ScanFails plan.nullText names.length (cursor.rows.deliver s'.outside).2 0
      (cursor.rows.deliver s'.outside).1 f) :
    Reads plan shape cursor s count (.error (.failure f))
  | whole {names : List String} {s' : Session σ} {count : Nat} {frame : Frame}
    (h : cursor.columns.outcome s = (.ok names, s'))
    (hshape : shape = .timeSeries → ∃ name ∈ names, isTimeColumn name = true)
    (hend : (cursor.rows.deliver s'.outside).2 = none)
    (hrows : frame.Shows plan.nullText names (cursor.rows.deliver s'.outside).1) :
    Reads plan shape cursor s count (.ok frame)

theorem readColumns_outcome (cursor : Cursor σ) (s : Session σ) :
    cursor.readColumns.outcome s =
      ((cursor.columns.outcome s).1.mapError fun r => .failure (columnsError r),
        (cursor.columns.outcome s).2) := by
  unfold Cursor.readColumns
  rw [Act.outcome_onFault]
  rcases cursor.columns.outcome s with ⟨(f | f) | names, s'⟩ <;> rfl

theorem scanRows_demanded (nullText : String) (width : Nat) (rows : Rows σ) (done : Scanned)
    (s : Session (σ × List Demand)) : ∃ count,
      (scanRows nullText width rows.demanded done).outcome s =
        (((scanRows nullText width rows done).outcome s.bare).1,
          ((scanRows nullText width rows done).outcome s.bare).2.withDemands
            (s.outside.2 ++ List.replicate count .row)) := by
  induction rows generalizing done s with
  | done => exact ⟨1, rfl⟩
  | broken r =>
    refine ⟨1, ?_⟩
    simp only [Rows.demanded, scanRows, Act.outcome_bind, Act.outcome_outside, Act.outcome_change,
      outcome_scanFault]
    rfl
  | row cells rest ih =>
    simp only [Rows.demanded, scanRows, Act.outcome_bind, Act.outcome_outside, Act.outcome_change]
    cases scanRow nullText width done.count cells with
    | error r => exact ⟨1, by simp only [outcome_scanFault]; rfl⟩
    | ok texts =>
      obtain ⟨count, h⟩ := ih ⟨done.count + 1, texts :: done.rows⟩
        { s with outside := (s.outside.1, s.outside.2 ++ [.row]) }
      refine ⟨count + 1, h.trans ?_⟩
      simp [Session.bare, List.replicate_succ]
  | fetch move next ih =>
    simp only [Rows.demanded, scanRows, Act.outcome_bind, Act.outcome_outside, Act.outcome_change]
    exact ih s.outside.1 done { s with outside := (move s.outside.1, s.outside.2) }

/-- Under given names only rows are demanded. -/
theorem materialize_demanded (cursor : Cursor σ) (nullText name : String) (names : List String)
    (s : Session (σ × List Demand)) : ∃ count,
      (materialize cursor.demanded nullText name (some names)).outcome s =
        (((materialize cursor nullText name (some names)).outcome s.bare).1,
          ((materialize cursor nullText name (some names)).outcome s.bare).2.withDemands
            (s.outside.2 ++ List.replicate count .row)) := by
  obtain ⟨count, hscan⟩ := scanRows_demanded nullText names.length cursor.rows ⟨0, []⟩ s
  have hrows : cursor.demanded.rows = cursor.rows.demanded := rfl
  refine ⟨count, ?_⟩
  simp only [materialize, pure_bind, Act.outcome_bind, hrows, hscan]
  rcases (scanRows nullText names.length cursor.rows ⟨0, []⟩).outcome s.bare with
    ⟨r | scanned, s'⟩ <;> rfl

theorem requireTimeColumn_cases (shape : OutputShape) (names : List String) :
    (requireTimeColumn shape names = .ok () ∧
      (shape = .timeSeries → ∃ name ∈ names, isTimeColumn name = true)) ∨
    (requireTimeColumn shape names
        = .error ⟨.missingTimeColumn, missingTimeColumnMessage names, none⟩ ∧
      shape = .timeSeries ∧ ∀ name ∈ names, isTimeColumn name = false) := by
  unfold requireTimeColumn
  by_cases h : shape = .timeSeries ∧ ¬ names.any isTimeColumn
  · refine .inr ⟨if_pos h, h.1, fun name hname => ?_⟩
    by_contra ht
    exact h.2 (List.any_eq_true.mpr ⟨name, hname, Bool.not_eq_false _ ▸ ht⟩)
  · refine .inl ⟨if_neg h, fun hshape => ?_⟩
    simpa using fun hn => h ⟨hshape, hn⟩

theorem readResult_demanded (plan : ServicePlan) (shape : OutputShape) (cursor : Cursor σ)
    (s : Session (σ × List Demand)) : ∃ count,
      (readResult plan shape cursor.demanded).outcome s =
        (((readResult plan shape cursor).outcome s.bare).1,
          ((readResult plan shape cursor).outcome s.bare).2.withDemands
            (s.outside.2 ++ .columns :: List.replicate count .row)) ∧
      cursor.Reads plan shape s.bare count ((readResult plan shape cursor).outcome s.bare).1 := by
  have hcolumns : cursor.demanded.columns = cursor.columns.demanding .columns := rfl
  simp only [readResult, Act.outcome_bind, readColumns_outcome, hcolumns, Act.outcome_demanding]
  cases hc : cursor.columns.outcome s.bare with
  | mk result s' =>
    cases result with
    | error r => exact ⟨0, rfl, .columnless hc⟩
    | ok names =>
      simp only [Except.mapError]
      rcases requireTimeColumn_cases shape names with ⟨hr, hshape⟩ | ⟨hr, hshape, hnames⟩
      · simp only [hr, givenOrFail, Act.outcome_pure]
        obtain ⟨count, hrun⟩ := materialize_demanded cursor plan.nullText defaultFrameName names
          (s'.withDemands (s.outside.2 ++ [.columns]))
        rw [Session.bare_withDemands] at hrun
        refine ⟨count, by rw [hrun]; simp [Session.withDemands], ?_⟩
        rcases materialize_cases cursor plan.nullText defaultFrameName names s' with
          ⟨f, hf, hfails⟩ | ⟨texts, hok, hlast, hd⟩
        · rw [hf]
          exact .broken hc hshape hfails
        · rw [hok]
          exact .whole hc hshape hlast hd.shows
      · exact ⟨0, by simp only [hr, givenOrFail, failWith, Act.outcome_raise]; rfl,
          by simp only [hr, givenOrFail, failWith, Act.outcome_raise]; exact .shapeless hc hshape hnames⟩

theorem use_readResult_demanded (plan : ServicePlan) (shape : OutputShape) {cursor : Cursor σ}
    (hclose : cursor.close.NeverRaises) (s : Session (σ × List Demand)) : ∃ count result after,
      (cursor.use (readResult plan shape)).outcome s.bare = (result, after) ∧
      (cursor.demanded.use (readResult plan shape)).outcome s =
        (result, after.withDemands
          (s.outside.2 ++ .columns :: (List.replicate count .row ++ [.close]))) ∧
      cursor.Reads plan shape s.bare count result := by
  obtain ⟨count, hrun, hreads⟩ := readResult_demanded plan shape cursor s
  cases hp : (readResult plan shape cursor).outcome s.bare with
  | mk result s' =>
    rw [hp] at hrun hreads
    obtain ⟨⟨⟩, after, hc⟩ := hclose.outcome_eq s'
    have hdemanded : cursor.demanded.close = cursor.close.demanding .close := rfl
    refine ⟨count, result, after, ?_, ?_, hreads⟩
    · simp only [Cursor.use, Act.outcome_andFinally, hp, hc]
    · simp only [Cursor.use, Act.outcome_andFinally, hrun, hdemanded, Act.outcome_demanding,
        Session.bare_withDemands, hc]
      simp [Session.withDemands]

/-! The whole query. -/

/-- How a query ends, with all that it demanded: its statement cannot be had, is rejected, cannot be
run, or opens a cursor that is read and closed. Each way out has every stage before it behind it. -/
inductive Request.Ends (plan : ServicePlan) (handle : Handle σ) (r : Request) (before : σ) :
    List Demand → Except Raised Frame → Prop
  | unresolved {f : Failure} (h : r.resolve = .error f) :
    Ends plan handle r before [] (.error (.failure f))
  | rejected {statement : String} {j : Rejection} (h : r.resolve = .ok statement)
    (hv : validate plan.denied statement = .error j) :
    Ends plan handle r before [] (.error (.failure j.failure))
  | unopened {statement text : String} {s s' : Session σ} {f : Failure}
    (h : r.Admits plan statement text) (hs : s.outside = before)
    (hx : (handle.execute text plan.timeout).outcome s = (.error (.failure f), s')) :
    Ends plan handle r before [.execute text] (.error (.failure f))
  | opened {statement text : String} {s s' : Session σ} {cursor : Cursor σ} {count : Nat}
    {result : Except Raised Frame} (h : r.Admits plan statement text) (hs : s.outside = before)
    (hx : (handle.execute text plan.timeout).outcome s = (.ok cursor, s'))
    (hr : cursor.Reads plan r.shape s' count result) :
    Ends plan handle r before
      (.execute text :: .columns :: (List.replicate count .row ++ [.close])) result

theorem prepare_unresolved {plan : ServicePlan} {r : Request} {f : Failure}
    (h : r.resolve = .error f) (s : Session σ) :
    (prepare plan r).outcome s = (.error (.failure f), s) := by
  simp only [prepare, h, givenOrFail, failWith, Act.outcome_bind, Act.outcome_raise]

/-- What is logged about a rejected statement. -/
def Rejection.lines (j : Rejection) (trace : Option String) : List LogEntry :=
  match j with
  | .deniedWord word =>
    [⟨.warning, validatorLogger, "Rejected statement containing keyword " ++ word, trace⟩]
  | _ => []

theorem prepare_rejected {plan : ServicePlan} {r : Request} {statement : String} {j : Rejection}
    (h : r.resolve = .ok statement) (hv : validate plan.denied statement = .error j)
    (s : Session σ) : (prepare plan r).outcome s =
      (.error (.failure j.failure), { s with log := s.log ++ j.lines s.trace }) := by
  simp only [prepare, h, givenOrFail, validateLogged, hv, failWith, pure_bind]
  cases j <;> simp [Act.outcome_bind, Rejection.lines]

theorem executeQuery_of_admits {plan : ServicePlan} {r : Request} {statement text : String}
    (h : r.Admits plan statement text) (handle : Handle σ) (s : Session σ) :
    (executeQuery plan handle r).outcome s =
      (do
        let cursor ← handle.execute text plan.timeout
        let frame ← cursor.use (readResult plan r.shape)
        Act.log .info queryLogger s!"Query {r.refId} returned {frame.rowCount} rows"
        return frame : Act σ Frame).outcome
      { s with log := s.log ++
        [⟨.info, queryLogger, "Adapted statement [" ++ r.refId ++ "]: " ++ text, s.trace⟩] } := by
  unfold executeQuery
  rw [prepare_of_admits h]
  simp only [bind_assoc, pure_bind]
  rw [Act.outcome_bind, Act.outcome_log]

theorem executeQuery_of_prepare {plan : ServicePlan} {r : Request} {e : Raised}
    {s s' : Session σ} (h : (prepare plan r).outcome s = (.error e, s')) (handle : Handle σ) :
    (executeQuery plan handle r).outcome s = (.error e, s') := by
  unfold executeQuery
  rw [Act.outcome_bind, h]

end QueryGate
