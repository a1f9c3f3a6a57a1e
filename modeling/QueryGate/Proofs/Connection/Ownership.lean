import QueryGate.Proofs.Connection.JobInvariant
/-! Who owns a connection. Once the workers are done each connection that the engine gave was closed once or
is owned by the one open cursor that its caller got. -/

namespace QueryGate

variable {ω T : Type}

namespace World

/-- Every worker that took a job is at its end. -/
def WorkersDone (w : World ω T) : Prop :=
  ∀ p ∈ w.workers, p.isRunning = false

/-- The cursor went to the caller of the job, as the result of its call. -/
def Returned (w : World ω T) (job cursor : Nat) : Prop :=
  w.calls[job]? = some (.returned cursor)

/-- The cursor was opened in the job, whose caller has not come to the end of its call. -/
def Awaited (w : World ω T) (job cursor : Nat) : Prop :=
  w.stage? job = some (.opened cursor) ∧ ∃ c, w.calls[job]? = some c ∧ c.isUnderway = true

/-- The cursor is open and owns the connection. -/
def Owns (w : World ω T) (cursor connection : Nat) : Prop :=
  ∃ c, w.holdings.cursors[cursor]? = some c ∧ c.owns connection = true

/-- The cursor is or was opened on the connection. -/
def OpenedOn (w : World ω T) (cursor connection : Nat) : Prop :=
  ∃ c, w.holdings.cursors[cursor]? = some c ∧ c.isOn connection = true

def obtained (w : World ω T) (connection : Nat) : Nat :=
  w.holdings.ledger.obtained.count connection

def closed (w : World ω T) (connection : Nat) : Nat :=
  w.holdings.ledger.closed.count connection

def owners (w : World ω T) (connection : Nat) : Nat :=
  w.holdings.cursors.countP (·.owns connection)

theorem Inv.returned_made {w : World ω T} (h : w.Inv) {job i : Nat} (hr : w.Returned job i) :
    w.makers[i]? = some job := by
  obtain ⟨j, p, hat⟩ := h.at_of_call hr
  have hfits := h.fits hat
  refine (h.made i hat).mp (Or.inr ?_)
  generalize j.abandoned = b at hfits
  generalize j.stage = stage at hfits
  cases hfits with
  | queued ho => simp at ho
  | cancelled hnone => simp [CallPoint.cursor?] at hnone
  | awaited _ hu => simp [CallPoint.isUndecided] at hu
  | failed hnone => simp [CallPoint.cursor?] at hnone
  | opened hk => rw [hk i rfl]

theorem Inv.awaited_made {w : World ω T} (h : w.Inv) {job i : Nat} (ha : w.Awaited job i) :
    w.makers[i]? = some job := by
  obtain ⟨j, p, c, hat, hs⟩ := h.at_of_stage ha.1
  exact (h.made i hat).mp (Or.inr hs)

theorem Inv.returned_not_late {w : World ω T} (h : w.Inv) {job i : Nat} (hr : w.Returned job i) :
    i ∉ w.late := by
  intro hi
  obtain ⟨job', hm, hc⟩ := h.late_over i hi
  obtain rfl : job' = job := Option.some.inj (hm.symm.trans (h.returned_made hr))
  have hcall := hr.symm.trans hc
  simp at hcall

theorem Inv.holds_nothing {w : World ω T} (hw : w.WorkersDone) (c : Nat) :
    w.workers.countP (·.holds c) = 0 := by
  rw [List.countP_eq_zero]
  intro p hp
  have hrest := hw p hp
  cases p <;> simp_all [WorkerPoint.isRunning, WorkerPoint.holds]

/-- Once the workers are done each open cursor is with one call. -/
theorem Inv.owner {w : World ω T} (h : w.Inv) (hw : w.WorkersDone) {i c : Nat} (ho : w.Owns i c) :
    ∃! job, w.Returned job i ∨ w.Awaited job i := by
  obtain ⟨cursor, hi, howns⟩ := ho
  have hlt : i < w.makers.length := by
    rw [h.makers_length]
    exact (List.getElem?_eq_some_iff.mp hi).1
  have hm : w.makers[i]? = some w.makers[i] := List.getElem?_eq_getElem hlt
  obtain ⟨j, p, call, hat⟩ := h.exists_at (h.made_lt hm)
  have hrest : p.isRunning = false := hw p (List.mem_of_getElem? hat.worker)
  have hstage : j.stage = .opened i :=
    ((h.made i hat).mpr hm).stage (by cases p <;> simp_all [WorkerPoint.isRunning, WorkerPoint.isBusy])
  refine ⟨w.makers[i], ?_, ?_⟩
  · have hfits := h.fits hat
    rw [hstage] at hfits
    by_cases hcall : call = .over
    · -- a call that is over left its cursor closed
      subst hcall
      obtain rfl : p = .finished := by
        generalize j.abandoned = b at hfits
        cases hfits with
        | opened _ => rfl
        | releasing _ => simp [WorkerPoint.isRunning] at hrest
      obtain ⟨m, hm', hclosed⟩ := h.settled hat hstage
      obtain rfl : cursor = m := Option.some.inj (hi.symm.trans hm')
      simp [OpenCursor.owns, hclosed] at howns
    · by_cases hreturned : ∃ m, call = .returned m
      · obtain ⟨m, rfl⟩ := hreturned
        refine Or.inl (hat.call.trans ?_)
        generalize j.abandoned = b at hfits
        cases hfits with
        | opened hk => rw [hk m rfl]
      · refine Or.inr ⟨hat.stage_eq.trans (congrArg some hstage), call, hat.call, ?_⟩
        cases call <;> simp_all [CallPoint.isUnderway]
  · rintro job (hr | ha)
    · exact Option.some.inj ((h.returned_made hr).symm.trans hm)
    · exact Option.some.inj ((h.awaited_made ha).symm.trans hm)

theorem Inv.openedOn_unique {w : World ω T} (h : w.Inv) {c i m : Nat} (hc : w.obtained c = 1)
    (hi : w.OpenedOn i c) (hm : w.OpenedOn m c) : i = m := by
  obtain ⟨a, hi, ha⟩ := hi
  obtain ⟨b, hm, hb⟩ := hm
  have hle := h.balanced.cursors c
  unfold obtained at hc
  have hone : w.holdings.cursors.countP (·.isOn c) ≤ 1 := by omega
  exact countP_le_one_unique hone hi ha hm hb

theorem Owns.openedOn {w : World ω T} {i c : Nat} (h : w.Owns i c) : w.OpenedOn i c := by
  obtain ⟨a, hi, ha⟩ := h
  refine ⟨a, hi, ?_⟩
  simp only [OpenCursor.owns, Bool.and_eq_true] at ha
  exact ha.2

theorem Inv.closed_once_or_owned {w : World ω T} (h : w.Inv) (hw : w.WorkersDone) {c : Nat}
    (hc : w.obtained c = 1) :
    w.closed c = 1 ∧ (∀ i, ¬ w.Owns i c) ∨ w.closed c = 0 ∧ ∃! i, w.Owns i c := by
  have hledger := h.balanced.ledger c
  rw [Inv.holds_nothing hw] at hledger
  unfold obtained at hc
  unfold closed
  by_cases howned : ∃ i, w.Owns i c
  · obtain ⟨i, cursor, hi, ho⟩ := howned
    have hpos : 0 < w.holdings.cursors.countP (·.owns c) :=
      List.countP_pos_iff.mpr ⟨cursor, List.mem_of_getElem? hi, ho⟩
    refine Or.inr ⟨by omega, i, ⟨cursor, hi, ho⟩, fun m hm => ?_⟩
    exact h.openedOn_unique hc hm.openedOn (Owns.openedOn ⟨cursor, hi, ho⟩)
  · have hzero : w.holdings.cursors.countP (·.owns c) = 0 := by
      rw [List.countP_eq_zero]
      intro cursor hmem ho
      obtain ⟨i, hi⟩ := List.mem_iff_getElem?.mp hmem
      exact howned ⟨i, cursor, hi, ho⟩
    exact Or.inl ⟨by omega, fun i ho => howned ⟨i, ho⟩⟩

variable [Add T] [Sub T] [OfNat T 0] [LT T] [LE T] [DecidableLT T] [DecidableLE T]

/-- In whatever order the steps of the calls come: no cursor goes both to a caller and to the callback, nor
does a connection. Once the workers are done, of each connection as many were obtained as were closed or are
owned by open cursors, and each of these cursors was returned to one caller, or its caller is still in its
call; so a connection obtained once was closed once or has one owner, which its caller got. -/
theorem connection_closed_once_or_owned {e : Engine ω T} {plan : PoolPlan T} {w : World ω T}
    (hw : w.IsReached e plan) :
    (∀ job i, w.Returned job i → i ∉ w.late) ∧
    (∀ c job i m, w.obtained c = 1 → w.Returned job i → w.OpenedOn i c → w.OpenedOn m c →
      m ∉ w.late) ∧
    (w.WorkersDone →
      (∀ c, w.obtained c = w.closed c + w.owners c) ∧
      (∀ i c, w.Owns i c → ∃! job, w.Returned job i ∨ w.Awaited job i) ∧
      ∀ c, w.obtained c = 1 →
        w.closed c = 1 ∧ (∀ i, ¬ w.Owns i c) ∨
        w.closed c = 0 ∧ ∃! i, w.Owns i c ∧ ((∀ job, ¬ w.Awaited job i) → ∃! job, w.Returned job i)) := by
  have h := hw.inv
  refine ⟨fun job i => h.returned_not_late, ?_, fun hdone => ⟨?_, fun i c => h.owner hdone, ?_⟩⟩
  · intro c job i m hc hr hi hm
    rw [h.openedOn_unique hc hm hi]
    exact h.returned_not_late hr
  · intro c
    have hledger := h.balanced.ledger c
    rw [Inv.holds_nothing hdone] at hledger
    exact hledger
  · intro c hc
    rcases h.closed_once_or_owned hdone hc with hclosed | ⟨hclosed, i, ho, hunique⟩
    · exact Or.inl hclosed
    · refine Or.inr ⟨hclosed, i, ⟨ho, fun hawaited => ?_⟩, fun m hm => hunique m hm.1⟩
      obtain ⟨job, hr, hj⟩ := h.owner hdone ho
      refine ⟨job, hr.resolve_right (hawaited job), fun job' hr' => hj job' (Or.inl hr')⟩

/-- A caller that gives up before its worker begins: the callback closes the cursor. -/
theorem connection_closed_once_or_owned_late :
    let e : Engine Unit Nat := {
      now := fun _ => 0, sleep := fun _ w => w, wait := fun _ w => w, turn := fun _ => .later true
      begin := id, connect := fun w => (.ok 7, w), run := fun _ _ w => (.ok 1, w)
      columns := fun _ _ => none, fetch := fun _ _ w => (.ok [], w), fetchesLeft := fun _ _ => 0
      closeResult := fun _ w => (.ok (), w), closeConnection := fun _ w => (.ok (), w), dispose := id }
    let plan : PoolPlan Nat := ⟨"p", 1, 0, none, 10⟩
    ∃ w : World Unit Nat, w.IsReached e plan ∧ w.WorkersDone ∧ w.late = [0] ∧ w.obtained 7 = 1 ∧
      w.closed 7 = 1 ∧ w.obtained 7 = w.closed 7 + w.owners 7 := by
  intro e plan
  let w₀ : World Unit Nat :=
    ⟨Session.start (Pool.start ((), ⟨[], []⟩) (Circuit.start "c" 3 9 [])), [], [], [], []⟩
  have hstart : w₀.IsStart := ⟨rfl, rfl, rfl, rfl, rfl⟩
  obtain ⟨w, hpath, hdone, hlate, hone⟩ : ∃ w, Path e plan w₀ w ∧ w.WorkersDone ∧ w.late = [0] ∧
      w.obtained 7 = 1 ∧ w.closed 7 = 1 := by
    refine ⟨_, .tail (.tail (.tail (.tail (.tail (.tail (.tail (.tail (.tail (.tail .refl
      (.submit _ "SELECT 1" ⟨"1", 1⟩ 0 _ rfl)) (.start _ 0 rfl)) (.timeOut _ 0 rfl))
      (.cancelFails _ 0 (by decide) (by decide))) (.register _ 0 rfl rfl))
      (.work _ 0 _ .taken _ _ rfl rfl rfl rfl)) (.work _ 0 _ (.connecting none 0) _ _ rfl rfl rfl rfl))
      (.work _ 0 _ (.connected 7) _ _ rfl rfl rfl rfl)) (.work _ 0 _ (.opened 0) _ _ rfl rfl rfl rfl))
      (.workerReleases _ 0 rfl), ?_, ?_, ?_⟩
    · intro p hp
      have hp' : p ∈ [(.finished : WorkerPoint Nat)] := hp
      rw [List.mem_singleton.mp hp']
      rfl
    · rfl
    · exact ⟨rfl, rfl⟩
  have hw : w.IsReached e plan := ⟨w₀, hstart, hpath⟩
  exact ⟨w, hw, hdone, hlate, hone.1, hone.2, ((connection_closed_once_or_owned hw).2.2 hdone).1 7⟩
end World

end QueryGate
