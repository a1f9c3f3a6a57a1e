import Mathlib.Data.List.Infix
import Mathlib.Logic.Function.Iterate
import QueryGate.Connection.EngineScript
import QueryGate.Proofs.Connection.Attempts
import QueryGate.Proofs.Service.Course
/-! The rows of a result, which come in batches. They come in order and whole batches at a time, until the
result is at its end, a fetch fails, or the deadline has passed by the time of the next batch. -/

namespace QueryGate

variable {σ ω T : Type}

/-- The rows as they come to a reader who lets something happen outside after each. -/
def Rows.lapsing (lapse : σ → σ) : Rows σ → Rows σ
  | .done => .done
  | .broken r => .broken r
  | .row cells rest => .row cells (.fetch lapse fun _ => rest.lapsing lapse)
  | .fetch move next => .fetch move fun w => (next w).lapsing lapse

/-- A reader who keeps every row and lets something happen after each gets the rows that are delivered, or
their error. -/
theorem Rows.fold_lapsing (lapse : σ → σ) (rows : Rows σ) (kept : List (List Cell)) (s : Session σ) :
    ((rows.fold (fun kept cells => do
        Act.change lapse
        return .yield (kept ++ [cells])) kept).outcome s).1 =
      match (rows.lapsing lapse).deliver s.outside with
      | (more, none) => .ok (kept ++ more)
      | (_, some r) => .error r := by
  induction rows generalizing kept s with
  | done => simp [fold, lapsing, deliver]
  | broken r => rfl
  | row cells rest ih =>
    have hrest := ih (kept ++ [cells]) { s with outside := lapse s.outside }
    simp only [fold, Act.outcome_bind, Act.outcome_change, Act.outcome_pure, lapsing, deliver]
    rw [hrest]
    dsimp only
    generalize (rest.lapsing lapse).deliver (lapse s.outside) = o
    obtain ⟨more, _ | r⟩ := o
    · simp
    · rfl
  | fetch move next ih =>
    simp only [fold, Act.outcome_bind, Act.outcome_outside, Act.outcome_change, lapsing, deliver]
    exact ih s.outside kept { s with outside := move s.outside }

/-- What a result has still to give, as it is seen in a state of its engine: a fetch gives the next of these
rows, and none only if there are none left. -/
structure Engine.Serves (e : Engine ω T) (result : Nat) (rest : ω → List (List Cell)) : Prop where
  fetch : ∀ {size w batch}, 1 ≤ size → (e.fetch result size w).1 = .ok batch →
    rest w = batch ++ rest (e.fetch result size w).2
  last : ∀ {size w}, 1 ≤ size → (e.fetch result size w).1 = .ok [] → rest w = []
  bound : ∀ w, (rest w).length ≤ e.fetchesLeft result w

/-- The rows of the next batch, none if it cannot be fetched. -/
def Engine.nextRows (e : Engine ω T) (result size : Nat) (w : ω) : List (List Cell) :=
  match (e.fetch result size w).1 with
  | .ok batch => batch
  | .error _ => []

/-- The engine after the next batch, something having happened after each of its rows. -/
def Engine.afterBatch (e : Engine ω T) (result size : Nat) (lapse : ω → ω) (w : ω) : ω :=
  lapse^[(e.nextRows result size w).length] (e.fetch result size w).2

/-- What the fetch after so many batches gives. -/
def Engine.fetched (e : Engine ω T) (result size : Nat) (lapse : ω → ω) (count : Nat) (w : ω) :
    Except Raised (List (List Cell)) :=
  (e.fetch result size ((e.afterBatch result size lapse)^[count] w)).1

/-- When the deadline is looked at after so many batches. -/
def Engine.askedAt (e : Engine ω T) (result size : Nat) (lapse : ω → ω) (count : Nat) (w : ω) : T :=
  e.now ((e.afterBatch result size lapse)^[count] w)

/-- The rows of the next batches, so many of them. -/
def Engine.rowsOfBatches (e : Engine ω T) (result size : Nat) (lapse : ω → ω) : Nat → ω → List (List Cell)
  | 0, _ => []
  | count + 1, w =>
    e.nextRows result size w ++ e.rowsOfBatches result size lapse count (e.afterBatch result size lapse w)

def Pool.lapse (lapse : ω → ω) (p : Pool ω T) : Pool ω T :=
  { p with engine := lapse p.engine }

theorem Pool.lapse_iterate (lapse : ω → ω) (count : Nat) (p : Pool ω T) :
    (Pool.lapse lapse)^[count] p = p.lapse lapse^[count] := by
  induction count generalizing p with
  | zero => rfl
  | succ count ih => exact ih (p.lapse lapse)

theorem Rows.deliver_lapsing_batch (lapse : σ → σ) (batch : List (List Cell)) (tail : Rows σ) (w : σ) :
    ((batch.foldr Rows.row tail).lapsing lapse).deliver w =
      (batch ++ ((tail.lapsing lapse).deliver (lapse^[batch.length] w)).1,
        ((tail.lapsing lapse).deliver (lapse^[batch.length] w)).2) := by
  induction batch generalizing w with
  | nil => rfl
  | cons cells batch ih =>
    simp only [List.foldr_cons, lapsing, deliver, ih]
    rfl

section Batches

variable {e : Engine ω T} {c : OpenCursor T} {size : Nat} {lapse : ω → ω}

/-- The rows of a cursor from a state on, of which so many batches are left. -/
def Pool.delivered [Add T] [Sub T] [OfNat T 0] [LT T] [LE T] [DecidableLT T] [DecidableLE T] (e : Engine ω T)
    (c : OpenCursor T) (size : Nat) (lapse : ω → ω) (left : Nat) (p : Pool ω T) : List (List Cell) × Option Raised :=
  ((batches e size c left).lapsing (Pool.lapse lapse)).deliver p

namespace Pool

/-- The failure of a reading that goes on past the deadline. -/
def fetchedLate (d : Deadline T) : Raised :=
  .failure ⟨.timeout, s!"Statement exceeded {d.label}s deadline while fetching rows", none⟩

section Steps

variable [Add T] [Sub T] [OfNat T 0] [LT T] [LE T] [DecidableLT T] [DecidableLE T] {left : Nat} {p : Pool ω T}

theorem delivered_late (h : c.deadline.expired (e.now p.engine) = true) :
    delivered e c size lapse (left + 1) p = ([], some (fetchedLate c.deadline)) := by
  simp only [delivered, batches, Rows.lapsing, Rows.deliver, h, if_true]
  rfl

theorem delivered_broken {r : Raised} (h : c.deadline.expired (e.now p.engine) = false)
    (hfetch : (e.fetch c.result size p.engine).1 = .error r) :
    delivered e c size lapse (left + 1) p = ([], some r) := by
  simp only [delivered, batches, Rows.lapsing, Rows.deliver, h, hfetch]
  rfl

theorem delivered_end (h : c.deadline.expired (e.now p.engine) = false)
    (hfetch : (e.fetch c.result size p.engine).1 = .ok []) :
    delivered e c size lapse (left + 1) p = ([], none) := by
  simp only [delivered, batches, Rows.lapsing, Rows.deliver, h, hfetch]
  rfl

theorem delivered_batch {row : List Cell} {more : List (List Cell)}
    (h : c.deadline.expired (e.now p.engine) = false)
    (hfetch : (e.fetch c.result size p.engine).1 = .ok (row :: more)) :
    delivered e c size lapse (left + 1) p =
      (e.nextRows c.result size p.engine ++
          (delivered e c size lapse left (p.lapse (e.afterBatch c.result size lapse))).1,
        (delivered e c size lapse left (p.lapse (e.afterBatch c.result size lapse))).2) := by
  have hrows : e.nextRows c.result size p.engine = row :: more := by
    unfold Engine.nextRows
    rw [hfetch]
  have hafter : p.lapse (e.afterBatch c.result size lapse) =
      (Pool.lapse lapse)^[(row :: more).length] { p with engine := (e.fetch c.result size p.engine).2 } := by
    rw [lapse_iterate, ← hrows]
    rfl
  rw [hrows, hafter]
  simp only [delivered, batches, Rows.lapsing, Rows.deliver, h, hfetch]
  exact Rows.deliver_lapsing_batch ..

/-- The first batches, as long as there are rows and time. -/
theorem delivered_batches (left count : Nat)
    (hfull : ∀ k < count, ∃ row more, e.fetched c.result size lapse k p.engine = .ok (row :: more))
    (hearly : ∀ k < count, c.deadline.expired (e.askedAt c.result size lapse k p.engine) = false) :
    delivered e c size lapse (left + count) p =
      (e.rowsOfBatches c.result size lapse count p.engine ++
          (delivered e c size lapse left (p.lapse (e.afterBatch c.result size lapse)^[count])).1,
        (delivered e c size lapse left (p.lapse (e.afterBatch c.result size lapse)^[count])).2) := by
  induction count generalizing p with
  | zero => rfl
  | succ count ih =>
    obtain ⟨row, more, hfetch⟩ := hfull 0 count.succ_pos
    have hrest := ih (p := p.lapse (e.afterBatch c.result size lapse))
      (fun k hk => hfull (k + 1) (Nat.succ_lt_succ hk)) (fun k hk => hearly (k + 1) (Nat.succ_lt_succ hk))
    rw [← Nat.add_assoc, delivered_batch (hearly 0 count.succ_pos) hfetch, hrest, ← List.append_assoc]
    rfl

end Steps

end Pool

/-! What is read while all fetches go well. -/

section Serves

variable {result : Nat} {rest : ω → List (List Cell)} {w : ω}

theorem rest_iterate (hlapse : ∀ w, rest (lapse w) = rest w) (count : Nat) (w : ω) :
    rest (lapse^[count] w) = rest w := by
  induction count generalizing w with
  | zero => rfl
  | succ count ih => exact (ih (lapse w)).trans (hlapse w)

namespace Engine.Serves

theorem rest_eq_nextRows (he : e.Serves result rest) (hlapse : ∀ w, rest (lapse w) = rest w) (hsize : 1 ≤ size)
    {batch : List (List Cell)} (h : (e.fetch result size w).1 = .ok batch) :
    rest w = e.nextRows result size w ++ rest (e.afterBatch result size lapse w) := by
  have hrows : e.nextRows result size w = batch := by
    unfold nextRows
    rw [h]
  unfold afterBatch
  rw [rest_iterate hlapse, hrows]
  exact he.fetch hsize h

theorem rest_eq_rowsOfBatches (he : e.Serves result rest) (hlapse : ∀ w, rest (lapse w) = rest w) (hsize : 1 ≤ size)
    (count : Nat) (hfull : ∀ k < count, ∃ row more, e.fetched result size lapse k w = .ok (row :: more)) :
    rest w = e.rowsOfBatches result size lapse count w ++ rest ((e.afterBatch result size lapse)^[count] w) := by
  induction count generalizing w with
  | zero => rfl
  | succ count ih =>
    obtain ⟨row, more, hfirst⟩ := hfull 0 count.succ_pos
    have hlater := ih (w := e.afterBatch result size lapse w) fun k hk => hfull (k + 1) (Nat.succ_lt_succ hk)
    rw [he.rest_eq_nextRows (w := w) hlapse hsize hfirst, hlater, ← List.append_assoc]
    rfl

/-- There are only so many batches with rows. -/
theorem exists_last (he : e.Serves result rest) (hlapse : ∀ w, rest (lapse w) = rest w) (hsize : 1 ≤ size) (w : ω) :
    ∃ count ≤ (rest w).length,
      (∀ k < count, ∃ row more, e.fetched result size lapse k w = .ok (row :: more)) ∧
      (e.fetched result size lapse count w = .ok [] ∨ ∃ r, e.fetched result size lapse count w = .error r) := by
  induction hlength : (rest w).length using Nat.strong_induction_on generalizing w with
  | _ length ih =>
    cases hfetch : (e.fetch result size w).1 with
    | error r => exact ⟨0, Nat.zero_le _, by simp, Or.inr ⟨r, hfetch⟩⟩
    | ok batch =>
      cases batch with
      | nil => exact ⟨0, Nat.zero_le _, by simp, Or.inl hfetch⟩
      | cons row more =>
        have hrest := he.rest_eq_nextRows hlapse hsize hfetch
        have hrows : e.nextRows result size w = row :: more := by
          unfold nextRows
          rw [hfetch]
        have hfewer : (rest (e.afterBatch result size lapse w)).length < length := by
          rw [← hlength, hrest, hrows, List.length_append, List.length_cons]
          omega
        obtain ⟨count, hcount, hfull, hlast⟩ := ih _ hfewer _ rfl
        refine ⟨count + 1, by omega, fun k hk => ?_, hlast⟩
        cases k with
        | zero => exact ⟨row, more, hfetch⟩
        | succ k => exact hfull k (Nat.lt_of_succ_lt_succ hk)

end Engine.Serves

end Serves

/-! The frame of a query. -/

theorem readResult_ok {plan : ServicePlan} {shape : OutputShape} {cursor : Cursor σ} {s s' : Session σ} {frame : Frame}
    (h : (readResult plan shape cursor).outcome s = (.ok frame, s')) :
    ∃ names t, cursor.columns.outcome s = (.ok names, t) ∧ (cursor.rows.deliver t.outside).2 = none ∧
      frame.Shows plan.nullText names (cursor.rows.deliver t.outside).1 := by
  obtain ⟨count, -, hreads⟩ := readResult_demanded plan shape cursor (s.withDemands [])
  rw [Session.bare_withDemands, h] at hreads
  cases hreads with
  | whole hcolumns _ hend hshows => exact ⟨_, _, hcolumns, hend, hshows⟩

/-- A query that gives a frame opened a cursor and read it to its end. -/
theorem executeQuery_ok {plan : ServicePlan} {handle : Handle σ} {r : Request} {s s' : Session σ} {frame : Frame}
    (h : (executeQuery plan handle r).outcome s = (.ok frame, s')) :
    ∃ text t cursor t' names t'', (handle.execute text plan.timeout).outcome t = (.ok cursor, t') ∧
      cursor.columns.outcome t' = (.ok names, t'') ∧ (cursor.rows.deliver t''.outside).2 = none ∧
      frame.Shows plan.nullText names (cursor.rows.deliver t''.outside).1 := by
  unfold executeQuery at h
  obtain ⟨text, t, -, h⟩ := Act.of_outcome_bind h
  obtain ⟨cursor, t', hopened, h⟩ := Act.of_outcome_bind h
  obtain ⟨shown, t₁, hused, h⟩ := Act.of_outcome_bind h
  obtain ⟨⟨⟩, t₂, -, h⟩ := Act.of_outcome_bind h
  obtain rfl : shown = frame := Except.ok.inj (Prod.ext_iff.mp h).1
  have hread : ((readResult plan r.shape cursor).outcome t').1 = .ok shown := by
    unfold Cursor.use at hused
    rw [Act.outcome_andFinally] at hused
    split at hused
    · exact (Prod.ext_iff.mp hused).1
    · cases hused
  obtain ⟨names, t'', hcolumns, hend, hshows⟩ := readResult_ok (Prod.ext hread rfl)
  exact ⟨text, t, cursor, t', names, t'', hopened, hcolumns, hend, hshows⟩

/-! Reading a result to its end. -/

section Reading

variable [AddCommGroup T] [LinearOrder T]

/-- A reading of a result that holds the rows `rest` at the start, with so many batches before the last fetch. -/
structure ReadInBatches (e : Engine ω T) (c : OpenCursor T) (size : Nat) (lapse : ω → ω) (rest : List (List Cell))
    (w : ω) (count : Nat) (read : List (List Cell) × Option Raised) : Prop where
  full : ∀ k < count, ∃ row more, e.fetched c.result size lapse k w = .ok (row :: more)
  last : e.fetched c.result size lapse count w = .ok [] ∨ ∃ r, e.fetched c.result size lapse count w = .error r
  /-- No row is left out, read twice or out of its place, whatever comes after. -/
  ordered : read.1 <+: rest
  /-- It ends normally just when it is in time for every fetch, and then it is complete. -/
  ends : e.fetched c.result size lapse count w = .ok [] →
    (read.2 = none ↔ ∀ k ≤ count, e.askedAt c.result size lapse k w < c.deadline.expiresAt)
  complete : read.2 = none → read.1 = rest
  broken : ∀ r, e.fetched c.result size lapse count w = .error r →
    (∀ k ≤ count, e.askedAt c.result size lapse k w < c.deadline.expiresAt) →
    read = (e.rowsOfBatches c.result size lapse count w, some r)
  late : ∀ k ≤ count, (∀ j < k, e.askedAt c.result size lapse j w < c.deadline.expiresAt) →
    c.deadline.expiresAt ≤ e.askedAt c.result size lapse k w →
    read = (e.rowsOfBatches c.result size lapse k w, some (Pool.fetchedLate c.deadline))

variable [IsOrderedAddMonoid T]

theorem Deadline.expired_iff (d : Deadline T) {now : T} : d.expired now = true ↔ d.expiresAt ≤ now := by
  unfold Deadline.expired
  rw [decide_eq_true_iff, d.remaining_le_iff le_rfl, add_zero]

theorem Deadline.expired_eq_false_iff (d : Deadline T) {now : T} : d.expired now = false ↔ now < d.expiresAt := by
  rw [← Bool.not_eq_true, d.expired_iff, not_le]

namespace Pool

variable {rest : ω → List (List Cell)} {p : Pool ω T} {left : Nat}

/-- A reading that is in time for every fetch. -/
theorem readInBatches_early (he : e.Serves c.result rest) (hlapse : ∀ w, rest (lapse w) = rest w) (hsize : 1 ≤ size)
    {count : Nat} (hleft : count < left)
    (hfull : ∀ k < count, ∃ row more, e.fetched c.result size lapse k p.engine = .ok (row :: more))
    (hlast : e.fetched c.result size lapse count p.engine = .ok [] ∨
      ∃ r, e.fetched c.result size lapse count p.engine = .error r)
    (hearly : ∀ k ≤ count, e.askedAt c.result size lapse k p.engine < c.deadline.expiresAt) :
    ReadInBatches e c size lapse (rest p.engine) p.engine count (delivered e c size lapse left p) := by
  have hintime : ∀ k ≤ count, c.deadline.expired (e.askedAt c.result size lapse k p.engine) = false :=
    fun k hk => c.deadline.expired_eq_false_iff.mpr (hearly k hk)
  obtain ⟨left, rfl⟩ : ∃ more, left = more + 1 + count := ⟨left - count - 1, by omega⟩
  have hrest := he.rest_eq_rowsOfBatches hlapse hsize count hfull
  have hread := delivered_batches (left + 1) count hfull fun k hk => hintime k hk.le
  have hlate : ∀ k ≤ count, ¬ c.deadline.expiresAt ≤ e.askedAt c.result size lapse k p.engine :=
    fun k hk => not_le.mpr (hearly k hk)
  rcases hlast with hend | ⟨r, hbroken⟩
  · rw [delivered_end (hintime count le_rfl) hend, List.append_nil] at hread
    rw [he.last hsize hend, List.append_nil] at hrest
    rw [hread, hrest]
    exact
      { full := hfull
        last := Or.inl hend
        ordered := List.prefix_rfl
        ends := fun _ => iff_of_true rfl hearly
        complete := fun _ => rfl
        broken := fun r h => by rw [hend] at h; cases h
        late := fun k hk _ h => absurd h (hlate k hk) }
  · rw [delivered_broken (hintime count le_rfl) hbroken, List.append_nil] at hread
    rw [hread, hrest]
    exact
      { full := hfull
        last := Or.inr ⟨r, hbroken⟩
        ordered := List.prefix_append _ _
        ends := fun h => by rw [hbroken] at h; cases h
        complete := fun h => by cases h
        broken := fun r' h _ => by rw [hbroken] at h; cases h; rfl
        late := fun k hk _ h => absurd h (hlate k hk) }

/-- A reading that is late for a fetch, after the batches before it. -/
theorem readInBatches_late (he : e.Serves c.result rest) (hlapse : ∀ w, rest (lapse w) = rest w) (hsize : 1 ≤ size)
    {count : Nat} (hleft : count < left)
    (hfull : ∀ k < count, ∃ row more, e.fetched c.result size lapse k p.engine = .ok (row :: more))
    (hlast : e.fetched c.result size lapse count p.engine = .ok [] ∨
      ∃ r, e.fetched c.result size lapse count p.engine = .error r)
    {k : Nat} (hk : k ≤ count) (hearly : ∀ j < k, e.askedAt c.result size lapse j p.engine < c.deadline.expiresAt)
    (hlate : c.deadline.expiresAt ≤ e.askedAt c.result size lapse k p.engine) :
    ReadInBatches e c size lapse (rest p.engine) p.engine count (delivered e c size lapse left p) := by
  obtain ⟨left, rfl⟩ : ∃ more, left = more + 1 + k := ⟨left - k - 1, by omega⟩
  have hfirst : ∀ j < k, ∃ row more, e.fetched c.result size lapse j p.engine = .ok (row :: more) :=
    fun j hj => hfull j (hj.trans_le hk)
  have hread := delivered_batches (left + 1) k hfirst
    fun j hj => c.deadline.expired_eq_false_iff.mpr (hearly j hj)
  rw [delivered_late (c.deadline.expired_iff.mpr hlate), List.append_nil] at hread
  have hnot : ¬ ∀ k ≤ count, e.askedAt c.result size lapse k p.engine < c.deadline.expiresAt :=
    fun h => absurd hlate (not_le.mpr (h k hk))
  rw [hread]
  exact
    { full := hfull
      last := hlast
      ordered := he.rest_eq_rowsOfBatches hlapse hsize k hfirst ▸ List.prefix_append _ _
      ends := fun _ => iff_of_false (by simp) hnot
      complete := fun h => by cases h
      broken := fun _ _ h => absurd h hnot
      late := fun k' _ hearly' hlate' => by
        -- Only one fetch is the first that is late.
        rcases Nat.lt_trichotomy k k' with hlt | rfl | hlt
        · exact absurd hlate (not_le.mpr (hearly' k hlt))
        · rfl
        · exact absurd hlate' (not_le.mpr (hearly k' hlt)) }

theorem delivered_readInBatches (he : e.Serves c.result rest) (hlapse : ∀ w, rest (lapse w) = rest w)
    (hsize : 1 ≤ size) (hleft : (rest p.engine).length < left) :
    ∃ count, ReadInBatches e c size lapse (rest p.engine) p.engine count (delivered e c size lapse left p) := by
  obtain ⟨count, hcount, hfull, hlast⟩ := he.exists_last hlapse hsize p.engine
  have hbound : count < left := hcount.trans_lt hleft
  refine ⟨count, ?_⟩
  by_cases hearly : ∀ k ≤ count, e.askedAt c.result size lapse k p.engine < c.deadline.expiresAt
  · exact readInBatches_early he hlapse hsize hbound hfull hlast hearly
  · push Not at hearly
    obtain ⟨k, ⟨hk, hlate⟩, hfirst⟩ := WellFounded.has_min Nat.lt_wfRel.wf
      {k | k ≤ count ∧ c.deadline.expiresAt ≤ e.askedAt c.result size lapse k p.engine} hearly
    exact readInBatches_late he hlapse hsize hbound hfull hlast hk
      (fun j hj => not_le.mp fun hj' => hfirst j ⟨by omega, hj'⟩ hj) hlate

/-- A cursor gives the rows of its result in order, whole batches of them, until all have come, a fetch fails
or the deadline has passed. Any reader who keeps the rows gets these, and the frame of a query shows them all. -/
theorem rowsOf_readInBatches (he : e.Serves c.result rest) (hlapse : ∀ w, rest (lapse w) = rest w) (hsize : 1 ≤ size)
    {cursor : Nat} {names : List String} (hcursor : p.cursors[cursor]? = some c)
    (hnames : e.columns c.result p.engine = some names) :
    let rows := (rowsOf e size cursor).lapsing (Pool.lapse lapse)
    (∃ count, ReadInBatches e c size lapse (rest p.engine) p.engine count (rows.deliver p)) ∧
    (∀ s : Session (Pool ω T), s.outside = p →
      (((rowsOf e size cursor).fold (fun kept cells => do
          Act.change (Pool.lapse lapse)
          return .yield (kept ++ [cells])) []).outcome s).1 =
        match rows.deliver p with
        | (all, none) => .ok all
        | (_, some r) => .error r) ∧
    ∀ (plan : ServicePlan) (handle : Handle (Pool ω T)) (r : Request) (s : Session (Pool ω T)),
      (∀ text t opened t', (handle.execute text plan.timeout).outcome t = (.ok opened, t') →
        opened.columns = columnsOf e cursor ∧ opened.rows = rows ∧ t'.outside = p) →
      ∀ frame s', (executeQuery plan handle r).outcome s = (.ok frame, s') →
        frame.Shows plan.nullText names (rest p.engine) := by
  intro rows
  have hrows : rows.deliver p = delivered e c size lapse (e.fetchesLeft c.result p.engine + 1) p := by
    simp only [rows, rowsOf, Rows.lapsing, Rows.deliver, hcursor, hnames, id_eq]
    rfl
  have hread := delivered_readInBatches (p := p) he hlapse hsize (Nat.lt_succ_of_le (he.bound p.engine))
  rw [← hrows] at hread
  refine ⟨hread, ?_, ?_⟩
  · rintro s rfl
    have hfold := Rows.fold_lapsing (Pool.lapse lapse) (rowsOf e size cursor) [] s
    simp only [List.nil_append] at hfold
    exact hfold
  · intro plan handle r s hopens frame s' hframe
    obtain ⟨text, t, opened, t', columns, t'', hopened, hcolumns, hend, hshows⟩ := executeQuery_ok hframe
    obtain ⟨hopenedColumns, hopenedRows, rfl⟩ := hopens text t opened t' hopened
    have hasked : (columnsOf e cursor).outcome t' = (.ok names, t') := by
      simp only [columnsOf, Act.outcome_bind, Act.outcome_outside, Act.outcome_pure, hcursor, Option.bind_some, hnames,
        Option.getD_some]
    rw [hopenedColumns, hasked] at hcolumns
    cases hcolumns
    rw [hopenedRows] at hend hshows
    obtain ⟨count, hall⟩ := hread
    rw [← hall.complete hend]
    exact hshows

end Pool

end Reading

end Batches

/-! The scripted engine. -/

/-- The rows of a scripted result that were not fetched. -/
def ScriptedEngine.unfetched (result : Nat) (s : ScriptedEngine T) : List (List Cell) :=
  match s.results[result]? with
  | some r => r.script.rows.drop r.position
  | none => []

theorem ScriptedEngine.unfetched_advance [Add T] (result : Nat) (time : T) (s : ScriptedEngine T) :
    (s.advance time).unfetched result = s.unfetched result :=
  rfl

theorem ScriptedEngine.serves [Add T] (result : Nat) : (engine (T := T)).Serves result (unfetched result) where
  fetch {size s batch} _ h := by
    simp only [engine, fetch, unfetched] at h ⊢
    cases hr : s.results[result]? with
    | none => simp_all
    | some r =>
      simp only [hr] at h ⊢
      split at h
      · cases h
      · cases h
        have hnext := List.prefix_iff_eq_append.mp (List.take_prefix size (r.script.rows.drop r.position))
        simpa [hr, advance, ← List.drop_drop] using hnext.symm
  last {size s} hsize h := by
    simp only [engine, fetch, unfetched] at h ⊢
    cases hr : s.results[result]? with
    | none => rfl
    | some r =>
      simp only [hr] at h ⊢
      split at h
      · cases h
      · exact (List.take_eq_nil_iff.mp (Except.ok.inj h)).resolve_left (by omega)
  bound s := by
    simp only [engine, fetchesLeft, unfetched]
    cases s.results[result]? with
    | none => exact Nat.zero_le _
    | some r => exact (List.length_drop ..).le

/-- Five rows, each fetch of which takes a second, and a pool with a cursor on them and a deadline. -/
def ScriptedEngine.fiveRows : StatementScript ℤ :=
  ⟨0, none, ["n"], [[.int 1], [.int 2], [.int 3], [.int 4], [.int 5]], true, 1, none, none⟩

def ScriptedEngine.fiveRowsUntil (deadline : Deadline ℤ) : Pool (ScriptedEngine ℤ) ℤ :=
  { Pool.start { start 0 ⟨[], fiveRows, .atOnce⟩ with results := [⟨fiveRows, 0⟩] } (.start "DB_BREAKER" 5 30 []) with
    cursors := [⟨0, 0, deadline, false⟩] }

/-- In batches of two, with a second after each row, the fetches are at 0, 3, 6 and 8 seconds. -/
theorem Pool.rowsOf_readInBatches_five :
    let e : Engine (ScriptedEngine ℤ) ℤ := ScriptedEngine.engine
    let p := ScriptedEngine.fiveRowsUntil ⟨"9", 9⟩
    let rows := (Pool.rowsOf e 2 0).lapsing (Pool.lapse (ScriptedEngine.advance 1))
    let handle : Handle (Pool (ScriptedEngine ℤ) ℤ) :=
      ⟨fun _ _ => do Act.change fun _ => p; return ⟨Pool.columnsOf e 0, rows, pure ()⟩, fun _ => pure (), pure (),
        fun _ => ""⟩
    let plan : ServicePlan := ⟨"main", 10, .whole 60, "", defaultDenied⟩
    let r : Request := ⟨"A", some "SELECT n FROM s.t", .table, none⟩
    (∃ count, ReadInBatches e ⟨0, 0, ⟨"9", 9⟩, false⟩ 2 (ScriptedEngine.advance 1) ScriptedEngine.fiveRows.rows
        p.engine count (rows.deliver p)) ∧
      ∃ frame s', (executeQuery plan handle r).outcome (.start p) = (.ok frame, s') ∧
        frame.Shows "" ["n"] ScriptedEngine.fiveRows.rows := by
  intro e p rows handle plan r
  have hcursor : p.cursors[0]? = some ⟨0, 0, ⟨"9", 9⟩, false⟩ := rfl
  have hnames : e.columns 0 p.engine = some ["n"] := rfl
  have hopens : ∀ text t opened t', (handle.execute text plan.timeout).outcome t = (.ok opened, t') →
      opened.columns = Pool.columnsOf e 0 ∧ opened.rows = rows ∧ t'.outside = p := by
    intro text t opened t' h
    cases h
    exact ⟨rfl, rfl, rfl⟩
  have hsome : ((executeQuery plan handle r).outcome (.start p)).1.toOption.isSome = true := by
    decide +kernel
  obtain ⟨hread, -, hquery⟩ := Pool.rowsOf_readInBatches (ScriptedEngine.serves 0)
    (ScriptedEngine.unfetched_advance 0 1) (by decide : 1 ≤ 2) hcursor hnames
  refine ⟨hread, ?_⟩
  cases hrun : (executeQuery plan handle r).outcome (.start p) with
  | mk result s' =>
    rw [hrun] at hsome
    cases result with
    | error r => cases hsome
    | ok frame => exact ⟨frame, s', rfl, hquery plan handle r _ hopens frame s' hrun⟩

/-- With seven seconds the last batch is late. -/
example : ((Pool.rowsOf ScriptedEngine.engine 2 0).lapsing (Pool.lapse (ScriptedEngine.advance 1))).deliver
      (ScriptedEngine.fiveRowsUntil ⟨"7", 7⟩) =
    (ScriptedEngine.fiveRows.rows, some (Pool.fetchedLate ⟨"7", (7 : ℤ)⟩)) :=
  rfl

end QueryGate
