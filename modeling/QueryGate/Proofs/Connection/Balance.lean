import Mathlib.Data.List.Basic
import QueryGate.Proofs.Connection.Worker
/-! The balance of a ledger. Each connection that was obtained is closed, or owned by an open cursor, or
held by the worker that got it, and what workers and cursors do keeps this so. -/

namespace QueryGate

variable {T : Type}

theorem countP_set_add {α : Type} {p : α → Bool} {l : List α} {i : Nat} {a : α} (b : α)
    (h : l[i]? = some a) :
    (l.set i b).countP p + (if p a then 1 else 0) = l.countP p + (if p b then 1 else 0) := by
  obtain ⟨hi, rfl⟩ := List.getElem?_eq_some_iff.mp h
  rw [List.countP_set hi]
  have hpos : p l[i] = true → 0 < l.countP p :=
    fun hp => List.countP_pos_iff.mpr ⟨_, List.getElem_mem hi, hp⟩
  split
  · have := hpos ‹_›
    omega
  · omega

theorem countP_le_one_unique {α : Type} {p : α → Bool} {l : List α} (h : l.countP p ≤ 1) {i m : Nat}
    {a b : α} (hi : l[i]? = some a) (ha : p a = true) (hm : l[m]? = some b) (hb : p b = true) :
    i = m := by
  induction l generalizing i m with
  | nil => simp at hi
  | cons x l ih =>
    have hpos : ∀ {n : Nat} {y : α}, l[n]? = some y → p y = true → 0 < l.countP p :=
      fun hy hp => List.countP_pos_iff.mpr ⟨_, List.mem_of_getElem? hy, hp⟩
    rw [List.countP_cons] at h
    cases i with
    | zero =>
      cases m with
      | zero => rfl
      | succ m =>
        simp only [List.getElem?_cons_zero, Option.some.injEq] at hi
        have hl := hpos (by simpa using hm) hb
        simp only [hi, ha, if_true] at h
        omega
    | succ i =>
      cases m with
      | zero =>
        simp only [List.getElem?_cons_zero, Option.some.injEq] at hm
        have hl := hpos (by simpa using hi) ha
        simp only [hm, hb, if_true] at h
        omega
      | succ m =>
        have hle : l.countP p ≤ 1 := by omega
        exact congrArg (· + 1) (ih hle (by simpa using hi) (by simpa using hm))

theorem set_eq_self {α : Type} {l : List α} {i : Nat} {a : α} (h : l[i]? = some a) :
    l.set i a = l := by
  obtain ⟨hi, rfl⟩ := List.getElem?_eq_some_iff.mp h
  exact List.set_getElem_self hi

theorem modify_eq_set {α : Type} {l : List α} {i : Nat} {a : α} (f : α → α) (h : l[i]? = some a) :
    l.modify i f = l.set i (f a) := by
  rw [List.modify_eq_set_getElem?, h]
  rfl

/-- Whether the cursor is open and owns the connection. -/
def OpenCursor.owns (connection : Nat) (c : OpenCursor T) : Bool :=
  !c.closed && c.connection = connection

/-- Whether the cursor was opened on the connection. -/
def OpenCursor.isOn (connection : Nat) (c : OpenCursor T) : Bool :=
  c.connection = connection

@[simp] theorem OpenCursor.owns_open (connection c result : Nat) (deadline : Deadline T) :
    OpenCursor.owns c ⟨connection, result, deadline, false⟩ = decide (connection = c) := rfl

@[simp] theorem OpenCursor.isOn_mk (connection c result : Nat) (deadline : Deadline T) (closed : Bool) :
    OpenCursor.isOn c ⟨connection, result, deadline, closed⟩ = decide (connection = c) := rfl

@[simp] theorem OpenCursor.owns_closed (cursor : OpenCursor T) (c : Nat) :
    OpenCursor.owns c { cursor with closed := true } = false := rfl

@[simp] theorem WorkerPoint.holds_connected (connection c : Nat) :
    (.connected connection : WorkerPoint T).holds c = decide (connection = c) := rfl

@[simp] theorem WorkerPoint.holds_failing (connection c : Nat) (r : Raised) :
    (.failing connection r : WorkerPoint T).holds c = decide (connection = c) := rfl

@[simp] theorem WorkerPoint.holds_opened (cursor c : Nat) :
    (.opened cursor : WorkerPoint T).holds c = false := rfl

@[simp] theorem WorkerPoint.holds_failed (r : Raised) (c : Nat) :
    (.failed r : WorkerPoint T).holds c = false := rfl

/-- Of each connection as many were obtained as were closed, are owned by cursors and held by workers, and
each time it was obtained at most one cursor was opened on it. -/
structure Holdings.Balanced (h : Holdings T) (workers : List (WorkerPoint T)) : Prop where
  ledger : ∀ c, h.ledger.obtained.count c =
    h.ledger.closed.count c + h.cursors.countP (·.owns c) + workers.countP (·.holds c)
  cursors : ∀ c, h.cursors.countP (·.isOn c) + workers.countP (·.holds c) ≤
    h.ledger.obtained.count c

theorem Holdings.Balanced.closeCursor {h : Holdings T} {workers : List (WorkerPoint T)}
    (hb : h.Balanced workers) (i : Nat) : (h.closeCursor i).Balanced workers := by
  unfold Holdings.closeCursor
  cases hc : h.cursors[i]? with
  | none => exact hb
  | some cursor =>
    dsimp only
    split
    · exact hb
    · rename_i hopen
      have hset : (h.cursors.modify i fun k => { k with closed := true }) =
          h.cursors.set i { cursor with closed := true } := modify_eq_set _ hc
      constructor
      · intro c
        have hcount := countP_set_add (p := (·.owns c)) { cursor with closed := true } hc
        have hledger := hb.ledger c
        have howns : OpenCursor.owns c cursor = decide (cursor.connection = c) := by
          simp [OpenCursor.owns, hopen]
        rw [OpenCursor.owns_closed, howns] at hcount
        simp only [decide_eq_true_eq, Bool.false_eq_true, if_false, Nat.add_zero] at hcount
        simp only [Ledger.close, hset, List.count_cons, beq_iff_eq]
        omega
      · intro c
        have hcount := countP_set_add (p := (·.isOn c)) { cursor with closed := true } hc
        have hcursors := hb.cursors c
        rw [show OpenCursor.isOn c { cursor with closed := true } = cursor.isOn c from rfl] at hcount
        simp only [Ledger.close, hset]
        omega

theorem Holdings.Balanced.moveWorker {h : Holdings T} {workers : List (WorkerPoint T)} {k : Nat}
    {p p' : WorkerPoint T} (hb : h.Balanced workers) (hp : workers[k]? = some p)
    (hholds : ∀ c, p'.holds c = p.holds c) : h.Balanced (workers.set k p') := by
  have hcount : ∀ c, (workers.set k p').countP (·.holds c) = workers.countP (·.holds c) := by
    intro c
    have h := countP_set_add (p := (·.holds c)) p' hp
    rw [hholds] at h
    omega
  exact ⟨fun c => hcount c ▸ hb.ledger c, fun c => hcount c ▸ hb.cursors c⟩

/-- A new connection is with the worker that got it. -/
theorem Holdings.Balanced.obtain {h : Holdings T} {workers : List (WorkerPoint T)} {k connection : Nat}
    {p : WorkerPoint T} (hb : h.Balanced workers) (hp : workers[k]? = some p)
    (hholds : ∀ c, p.holds c = false) :
    Holdings.Balanced { h with ledger := h.ledger.obtain (.ok connection) }
      (workers.set k (.connected connection)) := by
  have hcount : ∀ c, (workers.set k (.connected connection)).countP (·.holds c) =
      workers.countP (·.holds c) + if connection = c then 1 else 0 := by
    intro c
    have h := countP_set_add (p := (·.holds c)) (.connected connection) hp
    simpa only [hholds, WorkerPoint.holds_connected, Bool.false_eq_true, if_false, Nat.add_zero,
      decide_eq_true_eq] using h
  constructor
  · intro c
    have hledger := hb.ledger c
    simp only [Ledger.obtain, List.count_cons, beq_iff_eq, hcount]
    omega
  · intro c
    have hcursors := hb.cursors c
    simp only [Ledger.obtain, List.count_cons, beq_iff_eq, hcount]
    omega

/-- A worker's connection goes over to the cursor of its statement. -/
theorem Holdings.Balanced.openCursor {h : Holdings T} {workers : List (WorkerPoint T)}
    {k connection result cursor : Nat} {deadline : Deadline T} (hb : h.Balanced workers)
    (hp : workers[k]? = some (.connected connection)) :
    Holdings.Balanced { h with cursors := h.cursors ++ [⟨connection, result, deadline, false⟩] }
      (workers.set k (.opened cursor)) := by
  have hcount : ∀ c, (workers.set k (.opened cursor)).countP (·.holds c) +
      (if connection = c then 1 else 0) = workers.countP (·.holds c) := by
    intro c
    have h := countP_set_add (p := (·.holds c)) (.opened cursor) hp
    simpa only [WorkerPoint.holds_connected, WorkerPoint.holds_opened, Bool.false_eq_true, if_false,
      Nat.add_zero, decide_eq_true_eq] using h
  constructor
  · intro c
    have hledger := hb.ledger c
    have hc := hcount c
    simp only [List.countP_append, List.countP_singleton, OpenCursor.owns_open, decide_eq_true_eq]
    omega
  · intro c
    have hcursors := hb.cursors c
    have hc := hcount c
    simp only [List.countP_append, List.countP_singleton, OpenCursor.isOn_mk, decide_eq_true_eq]
    omega

/-- A worker closes the connection on which its statement failed. -/
theorem Holdings.Balanced.close {h : Holdings T} {workers : List (WorkerPoint T)} {k connection : Nat}
    {r r' : Raised} (hb : h.Balanced workers)
    (hp : workers[k]? = some (.failing connection r)) :
    Holdings.Balanced { h with ledger := h.ledger.close connection }
      (workers.set k (.failed r')) := by
  have hcount : ∀ c, (workers.set k (.failed r')).countP (·.holds c) +
      (if connection = c then 1 else 0) = workers.countP (·.holds c) := by
    intro c
    have h := countP_set_add (p := (·.holds c)) (.failed r') hp
    simpa only [WorkerPoint.holds_failing, WorkerPoint.holds_failed, Bool.false_eq_true, if_false,
      Nat.add_zero, decide_eq_true_eq] using h
  constructor
  · intro c
    have hledger := hb.ledger c
    have hc := hcount c
    simp only [Ledger.close, List.count_cons, beq_iff_eq]
    omega
  · intro c
    have hcursors := hb.cursors c
    have hc := hcount c
    simp only [Ledger.close]
    omega

theorem Holdings.Balanced.setStage {h : Holdings T} {workers : List (WorkerPoint T)}
    (hb : h.Balanced workers) (k : Nat) (stage : JobStage) : (h.setStage k stage).Balanced workers :=
  ⟨hb.ledger, hb.cursors⟩

def Holdings.IsClosed (h : Holdings T) (i : Nat) : Prop :=
  ∃ c, h.cursors[i]? = some c ∧ c.closed = true

theorem Holdings.cursors_closeCursor (h : Holdings T) (i : Nat) :
    (h.closeCursor i).cursors = h.cursors.modify i fun c => { c with closed := true } := by
  unfold closeCursor
  cases hc : h.cursors[i]? with
  | none => exact (List.modify_eq_self (List.getElem?_eq_none_iff.mp hc)).symm
  | some c =>
    dsimp only
    split
    · rename_i hclosed
      apply List.ext_getElem?
      intro m
      rw [List.getElem?_modify]
      split
      · rename_i he
        subst he
        rw [hc, ← hclosed]
        rfl
      · exact (id_map _).symm
    · rfl

theorem Holdings.jobs_closeCursor (h : Holdings T) (i : Nat) : (h.closeCursor i).jobs = h.jobs := by
  unfold closeCursor
  split
  · rfl
  · split
    · rfl
    · rfl

theorem Holdings.IsClosed.closeCursor {h : Holdings T} {m : Nat} (hm : h.IsClosed m) (i : Nat) :
    (h.closeCursor i).IsClosed m := by
  obtain ⟨c, hc, hclosed⟩ := hm
  unfold IsClosed
  rw [cursors_closeCursor, List.getElem?_modify, hc]
  split
  · exact ⟨_, rfl, rfl⟩
  · exact ⟨c, rfl, hclosed⟩

theorem Holdings.isClosed_closeCursor {h : Holdings T} {i : Nat} (hi : i < h.cursors.length) :
    (h.closeCursor i).IsClosed i := by
  unfold IsClosed
  rw [cursors_closeCursor, List.getElem?_modify_eq, List.getElem?_eq_getElem hi]
  exact ⟨_, rfl, rfl⟩

end QueryGate
