import QueryGate.Proofs.Connection.Balance
import QueryGate.Proofs.Connection.Interleaving
/-! The invariant of the interleaved calls. Each open cursor belongs to one job, and with it to the worker,
the callback or the caller of that job, never to two of them. -/

namespace QueryGate

variable {ω T : Type}

/-- Whether the caller may still get the cursor or have it closed. -/
def CallPoint.isUndecided : CallPoint → Bool
  | .waiting | .timedOut | .uncancelled => true
  | _ => false

/-- Whether the call has not come to its end. -/
def CallPoint.isUnderway : CallPoint → Bool
  | .returned _ | .over => false
  | _ => true

/-- The cursor that the caller has. -/
def CallPoint.cursor? : CallPoint → Option Nat
  | .returned i | .reading i => some i
  | _ => none

def JobStage.isEnd : JobStage → Bool
  | .failed _ | .opened _ => true
  | _ => false

/-- Job, worker and caller stand where they can stand together. -/
inductive JobFits : JobStage → Bool → WorkerPoint T → CallPoint → Prop
  | queued {c} : c = .waiting ∨ c = .timedOut → JobFits .queued false .idle c
  | cancelled {b c} : c.cursor? = none → JobFits .cancelled b .idle c
  | awaited {p c} : p.isBusy = true → c.isUndecided = true → JobFits .running false p c
  | orphaned {p} : p.isBusy = true → JobFits .running true p .over
  | failed {r b c} : c.cursor? = none → JobFits (.failed r) b .finished c
  | opened {i b c} : (∀ k, c.cursor? = some k → k = i) → JobFits (.opened i) b .finished c
  | releasing {stage} : stage.isEnd = true → JobFits stage true .releasing .over

/-- A job that a worker is busy with is running, and its caller waits or has left. -/
theorem JobFits.of_busy {stage : JobStage} {b : Bool} {p : WorkerPoint T} {c : CallPoint}
    (h : JobFits stage b p c) (hp : p.isBusy = true) :
    stage = .running ∧ (b = false ∧ c.isUndecided = true ∨ b = true ∧ c = .over) := by
  cases h with
  | awaited _ hc => exact ⟨rfl, Or.inl ⟨rfl, hc⟩⟩
  | orphaned _ => exact ⟨rfl, Or.inr ⟨rfl, rfl⟩⟩
  | queued _ => simp [WorkerPoint.isBusy] at hp
  | cancelled _ => simp [WorkerPoint.isBusy] at hp
  | failed _ => simp [WorkerPoint.isBusy] at hp
  | opened _ => simp [WorkerPoint.isBusy] at hp
  | releasing _ => simp [WorkerPoint.isBusy] at hp

theorem JobFits.running {b : Bool} {p : WorkerPoint T} {c : CallPoint} (hp : p.isBusy = true)
    (h : b = false ∧ c.isUndecided = true ∨ b = true ∧ c = .over) : JobFits .running b p c := by
  rcases h with ⟨rfl, hc⟩ | ⟨rfl, rfl⟩
  · exact .awaited hp hc
  · exact .orphaned hp

theorem CallPoint.cursor_of_undecided {c : CallPoint} (h : c.isUndecided = true) :
    c.cursor? = none := by
  cases c <;> first | rfl | simp [CallPoint.isUndecided] at h

/-- At its end a job goes to the caller that waits, or to the callback. -/
theorem JobFits.atEnd {stage : JobStage} {b : Bool} {c : CallPoint} (hs : stage.isEnd = true)
    (h : b = false ∧ c.isUndecided = true ∨ b = true ∧ c = .over) :
    JobFits stage b (.afterEnd b : WorkerPoint T) c := by
  rcases h with ⟨rfl, hc⟩ | ⟨rfl, rfl⟩
  · have hnone := CallPoint.cursor_of_undecided hc
    cases stage with
    | failed r => exact .failed hnone
    | opened i => exact .opened (by simp [hnone])
    | _ => simp [JobStage.isEnd] at hs
  · exact .releasing hs

theorem afterEnd_ne_opened (b : Bool) (i : Nat) : (.afterEnd b : WorkerPoint T) ≠ .opened i := by
  cases b <;> simp [WorkerPoint.afterEnd]

theorem JobFits.of_cursor {i : Nat} {b : Bool} {p : WorkerPoint T} {c : CallPoint}
    (h : JobFits (.opened i) b p c) (hc : c ≠ .over) : p = .finished := by
  cases h with
  | opened _ => rfl
  | releasing _ => exact absurd rfl hc

theorem JobFits.timeOut {stage : JobStage} {b : Bool} {p : WorkerPoint T}
    (h : JobFits stage b p .waiting) : JobFits stage b p .timedOut := by
  cases h with
  | queued _ => exact .queued (Or.inr rfl)
  | cancelled _ => exact .cancelled rfl
  | awaited hp _ => exact .awaited hp rfl
  | failed _ => exact .failed rfl
  | opened _ => exact .opened (by simp [CallPoint.cursor?])

theorem JobFits.cancelFails {stage : JobStage} {b : Bool} {p : WorkerPoint T}
    (h : JobFits stage b p .timedOut) (hs : stage ≠ .queued) : JobFits stage b p .uncancelled := by
  cases h with
  | queued _ => exact absurd rfl hs
  | cancelled _ => exact .cancelled rfl
  | awaited hp _ => exact .awaited hp rfl
  | failed _ => exact .failed rfl
  | opened _ => exact .opened (by simp [CallPoint.cursor?])

theorem JobFits.raise {r : Raised} {b : Bool} {p : WorkerPoint T} {c : CallPoint}
    (h : JobFits (.failed r) b p c) : JobFits (.failed r) b p .over := by
  cases h with
  | failed _ => exact .failed rfl
  | releasing hs => exact .releasing hs

theorem JobFits.raiseCancelled {b : Bool} {p : WorkerPoint T} {c : CallPoint}
    (h : JobFits .cancelled b p c) : JobFits .cancelled b p .over := by
  cases h with
  | cancelled _ => exact .cancelled rfl
  | releasing hs => exact .releasing hs

namespace World

/-- The parts of a job. -/
structure At (w : World ω T) (k : Nat) (j : Job T) (p : WorkerPoint T) (c : CallPoint) : Prop where
  job : w.jobs[k]? = some j
  worker : w.workers[k]? = some p
  call : w.calls[k]? = some c

/-- A cursor is in a job from when it is opened, first with the worker and then with the job itself. -/
def HasCursor (p : WorkerPoint T) (stage : JobStage) (i : Nat) : Prop :=
  p = .opened i ∨ stage = .opened i

structure Inv (w : World ω T) : Prop where
  workers_length : w.workers.length = w.jobs.length
  calls_length : w.calls.length = w.jobs.length
  fits : ∀ {job j p c}, w.At job j p c → JobFits j.stage j.abandoned p c
  makers_length : w.makers.length = w.holdings.cursors.length
  /-- A cursor is in the job in which it was opened and in no other. -/
  made : ∀ {job j p c} i, w.At job j p c → (HasCursor p j.stage i ↔ w.makers[i]? = some job)
  made_lt : ∀ {i job : Nat}, w.makers[i]? = some job → job < w.jobs.length
  settled : ∀ {job j i}, w.At job j .finished .over → j.stage = .opened i → w.holdings.IsClosed i
  late_over : ∀ i ∈ w.late, ∃ job, w.makers[i]? = some job ∧ w.calls[job]? = some .over
  balanced : w.holdings.Balanced w.workers

theorem Inv.exists_at {w : World ω T} (h : w.Inv) {job : Nat} (hj : job < w.jobs.length) :
    ∃ j p c, w.At job j p c :=
  ⟨_, _, _, List.getElem?_eq_getElem hj,
    List.getElem?_eq_getElem (by rw [h.workers_length]; exact hj),
    List.getElem?_eq_getElem (by rw [h.calls_length]; exact hj)⟩

theorem Inv.at_of_call {w : World ω T} (h : w.Inv) {job : Nat} {c : CallPoint}
    (hc : w.calls[job]? = some c) : ∃ j p, w.At job j p c := by
  have hlt : job < w.jobs.length := h.calls_length ▸ (List.getElem?_eq_some_iff.mp hc).1
  obtain ⟨j, p, c', hat⟩ := h.exists_at hlt
  have he : c' = c := Option.some.inj (hat.call.symm.trans hc)
  exact ⟨j, p, he ▸ hat⟩

theorem Inv.at_of_worker {w : World ω T} (h : w.Inv) {job : Nat} {p : WorkerPoint T}
    (hp : w.workers[job]? = some p) : ∃ j c, w.At job j p c := by
  have hlt : job < w.jobs.length := h.workers_length ▸ (List.getElem?_eq_some_iff.mp hp).1
  obtain ⟨j, p', c, hat⟩ := h.exists_at hlt
  have he : p' = p := Option.some.inj (hat.worker.symm.trans hp)
  exact ⟨j, c, he ▸ hat⟩

theorem At.stage_eq {w : World ω T} {job : Nat} {j : Job T} {p : WorkerPoint T} {c : CallPoint}
    (hat : w.At job j p c) : w.stage? job = some j.stage := by
  simp [stage?, hat.job]

/-- Only the parts of one job change. -/
structure ChangesAt (w w' : World ω T) (k : Nat) (j : Job T) (p : WorkerPoint T) (c : CallPoint) :
    Prop where
  jobs : w'.jobs = w.jobs.set k j
  workers : w'.workers = w.workers.set k p
  calls : w'.calls = w.calls.set k c

theorem ChangesAt.at_self {w w' : World ω T} {k : Nat} {j j' : Job T} {p p' : WorkerPoint T}
    {c c' : CallPoint} (hch : w.ChangesAt w' k j' p' c') (hat : w.At k j p c) :
    w'.At k j' p' c' := by
  obtain ⟨hj, -⟩ := List.getElem?_eq_some_iff.mp hat.job
  obtain ⟨hp, -⟩ := List.getElem?_eq_some_iff.mp hat.worker
  obtain ⟨hc, -⟩ := List.getElem?_eq_some_iff.mp hat.call
  constructor
  · rw [hch.jobs, List.getElem?_set_self hj]
  · rw [hch.workers, List.getElem?_set_self hp]
  · rw [hch.calls, List.getElem?_set_self hc]

theorem ChangesAt.at_other {w w' : World ω T} {k job : Nat} {j j' : Job T} {p p' : WorkerPoint T}
    {c c' : CallPoint} (hch : w.ChangesAt w' k j' p' c') (hne : k ≠ job) :
    w'.At job j p c ↔ w.At job j p c := by
  constructor
  · rintro ⟨h1, h2, h3⟩
    rw [hch.jobs, List.getElem?_set_ne hne] at h1
    rw [hch.workers, List.getElem?_set_ne hne] at h2
    rw [hch.calls, List.getElem?_set_ne hne] at h3
    exact ⟨h1, h2, h3⟩
  · rintro ⟨h1, h2, h3⟩
    constructor
    · rw [hch.jobs, List.getElem?_set_ne hne, h1]
    · rw [hch.workers, List.getElem?_set_ne hne, h2]
    · rw [hch.calls, List.getElem?_set_ne hne, h3]

theorem At.unique {w : World ω T} {k : Nat} {j j' : Job T} {p p' : WorkerPoint T}
    {c c' : CallPoint} (h : w.At k j p c) (h' : w.At k j' p' c') : j = j' ∧ p = p' ∧ c = c' :=
  ⟨Option.some.inj (h.job.symm.trans h'.job), Option.some.inj (h.worker.symm.trans h'.worker),
    Option.some.inj (h.call.symm.trans h'.call)⟩

/-- A step that changes one job, and opens a cursor in no other, keeps the invariant. -/
theorem Inv.change {w w' : World ω T} {k : Nat} {j j' : Job T} {p p' : WorkerPoint T}
    {c c' : CallPoint} (h : w.Inv) (hat : w.At k j p c) (hch : w.ChangesAt w' k j' p' c')
    (hfits : JobFits j'.stage j'.abandoned p' c')
    (hmakers_length : w'.makers.length = w'.holdings.cursors.length)
    (hmakers : ∀ i job : Nat, job ≠ k → (w'.makers[i]? = some job ↔ w.makers[i]? = some job))
    (hmade : ∀ i, HasCursor p' j'.stage i ↔ w'.makers[i]? = some k)
    (hkeeps : ∀ i : Nat, w.makers[i]? = some k → w'.makers[i]? = some k)
    (hclosed : ∀ i, w.holdings.IsClosed i → w'.holdings.IsClosed i)
    (hover : c = .over → c' = .over)
    (hsettled : ∀ i, p' = .finished → c' = .over → j'.stage = .opened i → w'.holdings.IsClosed i)
    (hlate : ∀ i ∈ w'.late, i ∈ w.late ∨ (c' = .over ∧ HasCursor p' j'.stage i))
    (hbalanced : w'.holdings.Balanced w'.workers) : w'.Inv := by
  have hself := hch.at_self hat
  have hk : k < w.jobs.length := (List.getElem?_eq_some_iff.mp hat.job).1
  have hlength : w'.jobs.length = w.jobs.length := by rw [hch.jobs, List.length_set]
  constructor
  case workers_length => rw [hch.workers, List.length_set, h.workers_length, hlength]
  case calls_length => rw [hch.calls, List.length_set, h.calls_length, hlength]
  case makers_length => exact hmakers_length
  case balanced => exact hbalanced
  case fits =>
    intro job j₁ p₁ c₁ hat₁
    by_cases hne : k = job
    · subst hne
      obtain ⟨rfl, rfl, rfl⟩ := hself.unique hat₁
      exact hfits
    · exact h.fits ((hch.at_other hne).mp hat₁)
  case made =>
    intro job j₁ p₁ c₁ i hat₁
    by_cases hne : k = job
    · subst hne
      obtain ⟨rfl, rfl, rfl⟩ := hself.unique hat₁
      exact hmade i
    · rw [h.made i ((hch.at_other hne).mp hat₁), hmakers i job (Ne.symm hne)]
  case made_lt =>
    intro i job hi
    rw [hlength]
    by_cases hne : job = k
    · exact hne ▸ hk
    · exact h.made_lt ((hmakers i job hne).mp hi)
  case settled =>
    intro job j₁ i hat₁ hs
    by_cases hne : k = job
    · subst hne
      obtain ⟨rfl, hp, hc⟩ := hself.unique hat₁
      exact hsettled i hp hc hs
    · exact hclosed i (h.settled ((hch.at_other hne).mp hat₁) hs)
  case late_over =>
    intro i hi
    rcases hlate i hi with hi | ⟨hc, hhas⟩
    · obtain ⟨job, hm, hc⟩ := h.late_over i hi
      refine ⟨job, ?_⟩
      by_cases hne : job = k
      · subst hne
        refine ⟨hkeeps i hm, ?_⟩
        rw [hself.call, hover (Option.some.inj (hat.call.symm.trans hc))]
      · refine ⟨(hmakers i job hne).mpr hm, ?_⟩
        rw [hch.calls, List.getElem?_set_ne (Ne.symm hne), hc]
    · exact ⟨k, (hmade i).mp hhas, by rw [hself.call, hc]⟩

/-- A step that opens and closes no cursor. -/
theorem Inv.quiet {w w' : World ω T} {k : Nat} {j j' : Job T} {p p' : WorkerPoint T}
    {c c' : CallPoint} (h : w.Inv) (hat : w.At k j p c) (hch : w.ChangesAt w' k j' p' c')
    (hcursors : w'.holdings.cursors = w.holdings.cursors) (hmakers : w'.makers = w.makers)
    (hlate : w'.late = w.late) (hfits : JobFits j'.stage j'.abandoned p' c')
    (hhas : ∀ i, HasCursor p' j'.stage i ↔ HasCursor p j.stage i) (hover : c = .over → c' = .over)
    (hend : ∀ i, p' = .finished → c' = .over → j'.stage ≠ .opened i)
    (hbalanced : w'.holdings.Balanced w'.workers) : w'.Inv := by
  have hclosed : ∀ i, w.holdings.IsClosed i → w'.holdings.IsClosed i := by
    intro i hi
    unfold Holdings.IsClosed
    rw [hcursors]
    exact hi
  refine h.change hat hch hfits ?_ ?_ ?_ ?_ hclosed hover ?_ ?_ hbalanced
  · rw [hmakers, hcursors, h.makers_length]
  · intro i job _
    rw [hmakers]
  · intro i
    rw [hhas, hmakers, h.made i hat]
  · intro i hi
    rwa [hmakers]
  · exact fun i hp hc hs => absurd hs (hend i hp hc)
  · exact fun i hi => Or.inl (hlate ▸ hi)

theorem holds_eq_false {p : WorkerPoint T} (hp : p.isBusy = false) (c : Nat) : p.holds c = false := by
  cases p <;> first | rfl | simp [WorkerPoint.isBusy] at hp

theorem HasCursor.stage {p : WorkerPoint T} {stage : JobStage} {i : Nat} (h : HasCursor p stage i)
    (hp : p.isBusy = false) : stage = .opened i := by
  rcases h with rfl | h
  · simp [WorkerPoint.isBusy] at hp
  · exact h

/-- A step that closes the cursor of a job at its end. -/
theorem Inv.closing {w w' : World ω T} {k i : Nat} {j : Job T} {p p' : WorkerPoint T}
    {c c' : CallPoint} (h : w.Inv) (hat : w.At k j p c) (hstage : j.stage = .opened i)
    (hp : p.isBusy = false) (hp' : p'.isBusy = false)
    (hholdings : w'.holdings = w.holdings.closeCursor i)
    (hworkers : w'.workers = w.workers.set k p') (hcalls : w'.calls = w.calls.set k c')
    (hmakers : w'.makers = w.makers) (hlate : ∀ m ∈ w'.late, m ∈ w.late ∨ (c' = .over ∧ m = i))
    (hfits : JobFits j.stage j.abandoned p' c') (hover : c = .over → c' = .over) : w'.Inv := by
  have hch : w.ChangesAt w' k j p' c' := by
    refine ⟨?_, hworkers, hcalls⟩
    obtain ⟨hk, hj⟩ := List.getElem?_eq_some_iff.mp hat.job
    have hjobs : w'.jobs = w.jobs := by
      unfold jobs
      rw [hholdings, Holdings.jobs_closeCursor]
    rw [hjobs, ← hj, List.set_getElem_self]
  have hmade : w.makers[i]? = some k := (h.made i hat).mp (Or.inr hstage)
  have hi : i < w.holdings.cursors.length := by
    rw [← h.makers_length]
    exact (List.getElem?_eq_some_iff.mp hmade).1
  refine h.change hat hch hfits ?_ ?_ ?_ ?_ ?_ hover ?_ ?_ ?_
  · rw [hmakers, hholdings, Holdings.cursors_closeCursor, List.length_modify, h.makers_length]
  · intro m job _
    rw [hmakers]
  · intro m
    rw [hmakers, ← h.made m hat]
    constructor
    · exact fun hm => Or.inr (hm.stage hp')
    · exact fun hm => Or.inr (hm.stage hp)
  · intro m hm
    rwa [hmakers]
  · intro m hm
    rw [hholdings]
    exact hm.closeCursor i
  · intro m _ _ hs
    have hm : i = m := by simpa [hstage] using hs
    rw [hholdings, ← hm]
    exact Holdings.isClosed_closeCursor hi
  · intro m hm
    rcases hlate m hm with hm | ⟨hc, rfl⟩
    · exact Or.inl hm
    · exact Or.inr ⟨hc, Or.inr hstage⟩
  · rw [hholdings, hworkers]
    refine (h.balanced.closeCursor i).moveWorker hat.worker fun c => ?_
    rw [holds_eq_false hp, holds_eq_false hp']

theorem Inv.moveCall {w : World ω T} {k : Nat} {j : Job T} {p : WorkerPoint T} {c c' : CallPoint}
    (h : w.Inv) (hat : w.At k j p c) (hfits : JobFits j.stage j.abandoned p c') (hc : c ≠ .over)
    (hend : c' = .over → ∀ i, j.stage ≠ .opened i) : (w.moveCall k c').Inv := by
  have hch : w.ChangesAt (w.moveCall k c') k j p c' :=
    ⟨(set_eq_self hat.job).symm, (set_eq_self hat.worker).symm, rfl⟩
  exact h.quiet hat hch rfl rfl rfl hfits (fun _ => Iff.rfl) (fun ho => absurd ho hc)
    (fun i _ ho => hend ho i) h.balanced

/-- The invariant looks at the holdings of the session only. -/
theorem Inv.ambient {w w' : World ω T} (h : w.Inv) (hholdings : w'.holdings = w.holdings)
    (hworkers : w'.workers = w.workers) (hcalls : w'.calls = w.calls)
    (hmakers : w'.makers = w.makers) (hlate : w'.late = w.late) : w'.Inv := by
  have hjobs : w'.jobs = w.jobs := congrArg Holdings.jobs hholdings
  have hat : ∀ {k j p c}, w'.At k j p c → w.At k j p c := by
    rintro k j p c ⟨hj, hp, hc⟩
    exact ⟨hjobs ▸ hj, hworkers ▸ hp, hcalls ▸ hc⟩
  constructor
  case workers_length => rw [hworkers, hjobs, h.workers_length]
  case calls_length => rw [hcalls, hjobs, h.calls_length]
  case fits => exact fun hat' => h.fits (hat hat')
  case makers_length => rw [hmakers, hholdings, h.makers_length]
  case made => exact fun i hat' => hmakers ▸ h.made i (hat hat')
  case made_lt => exact fun hi => hjobs ▸ h.made_lt (hmakers ▸ hi)
  case settled => exact fun hat' hs => hholdings ▸ h.settled (hat hat') hs
  case late_over =>
    rw [hlate, hmakers, hcalls]
    exact h.late_over
  case balanced =>
    rw [hholdings, hworkers]
    exact h.balanced

/-- A new job brings no cursor. -/
theorem Inv.submit {w w' : World ω T} (h : w.Inv) {sql : String} {deadline : Deadline T}
    (hholdings : w'.holdings =
      { w.holdings with jobs := w.holdings.jobs ++ [⟨sql, deadline, .queued, false⟩] })
    (hworkers : w'.workers = w.workers ++ [.idle]) (hcalls : w'.calls = w.calls ++ [.waiting])
    (hmakers : w'.makers = w.makers) (hlate : w'.late = w.late) : w'.Inv := by
  have hjobs : w'.jobs = w.jobs ++ [⟨sql, deadline, .queued, false⟩] :=
    congrArg Holdings.jobs hholdings
  have hcursors : w'.holdings.cursors = w.holdings.cursors := by rw [hholdings]
  have hlength : w'.jobs.length = w.jobs.length + 1 := by simp [hjobs]
  -- every job is one of those before or the new one, which is queued
  have hat : ∀ {k j p c}, w'.At k j p c →
      w.At k j p c ∨ (k = w.jobs.length ∧ j.stage = .queued ∧ j.abandoned = false ∧ p = .idle ∧
        c = .waiting) := by
    rintro k j p c ⟨hj, hp, hc⟩
    rw [hjobs] at hj
    rw [hworkers] at hp
    rw [hcalls] at hc
    by_cases hk : k < w.jobs.length
    · rw [List.getElem?_append_left hk] at hj
      rw [List.getElem?_append_left (h.workers_length ▸ hk)] at hp
      rw [List.getElem?_append_left (h.calls_length ▸ hk)] at hc
      exact Or.inl ⟨hj, hp, hc⟩
    · have hlt := (List.getElem?_eq_some_iff.mp hj).1
      simp only [List.length_append, List.length_singleton] at hlt
      have he : k = w.jobs.length := by omega
      subst he
      rw [List.getElem?_append_right (Nat.le_refl _)] at hj
      rw [List.getElem?_append_right (Nat.le_of_eq h.workers_length), h.workers_length] at hp
      rw [List.getElem?_append_right (Nat.le_of_eq h.calls_length), h.calls_length] at hc
      simp only [Nat.sub_self, List.getElem?_cons_zero, Option.some.injEq] at hj hp hc
      subst hj hp hc
      exact Or.inr ⟨rfl, rfl, rfl, rfl, rfl⟩
  constructor
  case workers_length => rw [hworkers, hlength, List.length_append, h.workers_length, List.length_singleton]
  case calls_length => rw [hcalls, hlength, List.length_append, h.calls_length, List.length_singleton]
  case makers_length => rw [hmakers, hcursors, h.makers_length]
  case fits =>
    intro k j p c hat'
    rcases hat hat' with h' | ⟨-, hs, ha, rfl, rfl⟩
    · exact h.fits h'
    · rw [hs, ha]
      exact .queued (Or.inl rfl)
  case made =>
    intro k j p c i hat'
    rw [hmakers]
    rcases hat hat' with h' | ⟨rfl, hs, -, rfl, rfl⟩
    · exact h.made i h'
    · constructor
      · intro hhas
        have hq := hhas.stage rfl
        simp [hs] at hq
      · intro hm
        exact absurd (h.made_lt hm) (Nat.lt_irrefl _)
  case made_lt =>
    intro i k hi
    rw [hmakers] at hi
    exact hlength ▸ Nat.lt_succ_of_lt (h.made_lt hi)
  case settled =>
    intro k j i hat' hs
    unfold Holdings.IsClosed
    rw [hcursors]
    rcases hat hat' with h' | ⟨-, hq, -⟩
    · exact h.settled h' hs
    · simp [hq] at hs
  case late_over =>
    intro i hi
    rw [hlate] at hi
    obtain ⟨k, hm, hc⟩ := h.late_over i hi
    refine ⟨k, hmakers ▸ hm, ?_⟩
    rw [hcalls, List.getElem?_append_left (List.getElem?_eq_some_iff.mp hc).1, hc]
  case balanced =>
    have hidle : ∀ c, [(.idle : WorkerPoint T)].countP (·.holds c) = 0 := fun _ => rfl
    rw [hholdings, hworkers]
    constructor
    · intro c
      rw [List.countP_append, hidle, Nat.add_zero]
      exact h.balanced.ledger c
    · intro c
      rw [List.countP_append, hidle, Nat.add_zero]
      exact h.balanced.cursors c

/-- Disposing cancels what is queued and touches nothing else. -/
theorem Inv.dispose {w w' : World ω T} (h : w.Inv)
    (hholdings : w'.holdings = { w.holdings with
      jobs := w.holdings.jobs.map fun j =>
        if j.stage = .queued then { j with stage := .cancelled } else j })
    (hworkers : w'.workers = w.workers) (hcalls : w'.calls = w.calls)
    (hmakers : w'.makers = w.makers) (hlate : w'.late = w.late) : w'.Inv := by
  have hjobs : w'.jobs = w.jobs.map fun j =>
      if j.stage = .queued then { j with stage := .cancelled } else j :=
    congrArg Holdings.jobs hholdings
  have hcursors : w'.holdings.cursors = w.holdings.cursors := by rw [hholdings]
  have hat : ∀ {k j p c}, w'.At k j p c → ∃ j₀, w.At k j₀ p c ∧
      j = if j₀.stage = .queued then { j₀ with stage := .cancelled } else j₀ := by
    rintro k j p c ⟨hj, hp, hc⟩
    rw [hjobs, List.getElem?_map, Option.map_eq_some_iff] at hj
    obtain ⟨j₀, hj₀, rfl⟩ := hj
    exact ⟨j₀, ⟨hj₀, hworkers ▸ hp, hcalls ▸ hc⟩, rfl⟩
  have hopened : ∀ (j₀ : Job T) i,
      (if j₀.stage = .queued then { j₀ with stage := .cancelled } else j₀).stage = .opened i ↔
        j₀.stage = .opened i := by
    intro j₀ i
    split
    · rename_i hq
      simp [hq]
    · rfl
  constructor
  case workers_length => rw [hworkers, hjobs, List.length_map, h.workers_length]
  case calls_length => rw [hcalls, hjobs, List.length_map, h.calls_length]
  case makers_length => rw [hmakers, hcursors, h.makers_length]
  case fits =>
    intro k j p c hat'
    obtain ⟨j₀, h₀, rfl⟩ := hat hat'
    have hfits := h.fits h₀
    split
    · rename_i hq
      rw [hq] at hfits
      generalize j₀.abandoned = b at hfits
      cases hfits with
      | queued hc => exact .cancelled (by rcases hc with rfl | rfl <;> rfl)
      | releasing hs => simp [JobStage.isEnd] at hs
    · exact hfits
  case made =>
    intro k j p c i hat'
    obtain ⟨j₀, h₀, rfl⟩ := hat hat'
    unfold HasCursor
    rw [hmakers, hopened]
    exact h.made i h₀
  case made_lt =>
    intro i k hi
    rw [hjobs, List.length_map]
    exact h.made_lt (hmakers ▸ hi)
  case settled =>
    intro k j i hat' hs
    obtain ⟨j₀, h₀, rfl⟩ := hat hat'
    unfold Holdings.IsClosed
    rw [hcursors]
    exact h.settled h₀ ((hopened j₀ i).mp hs)
  case late_over =>
    rw [hlate, hmakers, hcalls]
    exact h.late_over
  case balanced =>
    rw [hholdings, hworkers]
    exact ⟨h.balanced.ledger, h.balanced.cursors⟩

theorem noteMaker_of_ne_opened {w : World ω T} {job : Nat} {p : WorkerPoint T}
    (hp : ∀ i, p ≠ .opened i) : w.noteMaker job p = w := by
  unfold noteMaker
  split
  · rename_i i
    exact absurd rfl (hp i)
  · rfl

/-- The cursor of a statement that was run is in the job from then on. -/
theorem Inv.opens {w w' : World ω T} (h : w.Inv) {k connection result : Nat} {j : Job T}
    {c : CallPoint} (hat : w.At k j (.connected connection) c)
    (hholdings : w'.holdings = { w.holdings with
      cursors := w.holdings.cursors ++ [⟨connection, result, j.deadline, false⟩] })
    (hworkers : w'.workers = w.workers.set k (.opened w.holdings.cursors.length))
    (hcalls : w'.calls = w.calls) (hmakers : w'.makers = w.makers ++ [k])
    (hlate : w'.late = w.late) : w'.Inv := by
  obtain ⟨hstage, hcaller⟩ := (h.fits hat).of_busy rfl
  have hjobs : w'.jobs = w.jobs.set k j := by
    rw [set_eq_self hat.job]
    unfold jobs
    rw [hholdings]
  have hcursors : w'.holdings.cursors =
      w.holdings.cursors ++ [⟨connection, result, j.deadline, false⟩] := by rw [hholdings]
  have hnew : ∀ i : Nat, (w.makers ++ [k])[i]? = some k ↔
      w.makers[i]? = some k ∨ i = w.makers.length := by
    intro i
    rcases Nat.lt_trichotomy i w.makers.length with hi | hi | hi
    · rw [List.getElem?_append_left hi]
      exact ⟨Or.inl, fun ho => ho.elim id fun he => absurd he (Nat.ne_of_lt hi)⟩
    · simp [hi]
    · rw [List.getElem?_append_right (Nat.le_of_lt hi), List.getElem?_eq_none (by simp; omega),
        List.getElem?_eq_none (Nat.le_of_lt hi)]
      simp only [reduceCtorEq, false_or, false_iff]
      omega
  have hnone : ∀ i : Nat, w.makers[i]? ≠ some k := by
    intro i hi
    rcases (h.made i hat).mpr hi with ho | ho
    · simp at ho
    · simp [hstage] at ho
  refine h.change hat ⟨hjobs, hworkers, by rw [hcalls, set_eq_self hat.call]⟩
    (hstage ▸ .running rfl hcaller) ?_ ?_ ?_ ?_ ?_ id ?_ ?_ ?_
  · rw [hmakers, hcursors, List.length_append, List.length_append, h.makers_length]
    rfl
  · intro i job hne
    rw [hmakers]
    rcases Nat.lt_or_ge i w.makers.length with hi | hi
    · rw [List.getElem?_append_left hi]
    · rw [List.getElem?_append_right hi, List.getElem?_eq_none hi]
      simp only [List.getElem?_singleton]
      split <;> simp [Ne.symm hne]
  · intro i
    rw [hmakers, hnew, h.makers_length]
    simp [HasCursor, hstage, hnone, eq_comm]
  · intro i hi
    rw [hmakers, hnew]
    exact Or.inl hi
  · rintro i ⟨m, hm, hclosed⟩
    unfold Holdings.IsClosed
    rw [hcursors, List.getElem?_append_left (List.getElem?_eq_some_iff.mp hm).1]
    exact ⟨m, hm, hclosed⟩
  · intro i hf
    simp at hf
  · exact fun i hi => Or.inl (hlate ▸ hi)
  · rw [hholdings, hworkers]
    exact h.balanced.openCursor hat.worker

/-- Every step of a worker keeps the invariant. -/
theorem Inv.work {w w' : World ω T} (h : w.Inv) {k : Nat} {j : Job T} {p p' : WorkerPoint T}
    {c : CallPoint} (hat : w.At k j p c) (hp : p.isBusy = true)
    (hadv : Pool.Advances k j p w.holdings p' w'.holdings)
    (hworkers : w'.workers = w.workers.set k p') (hcalls : w'.calls = w.calls)
    (hmakers : w'.makers = (w.noteMaker k p').makers) (hlate : w'.late = w.late) : w'.Inv := by
  obtain ⟨hstage, hcaller⟩ := (h.fits hat).of_busy hp
  have hcalls' : w'.calls = w.calls.set k c := by rw [hcalls, set_eq_self hat.call]
  have hjobs' : w'.jobs = w.jobs → w'.jobs = w.jobs.set k j := by
    intro hj
    rw [hj, set_eq_self hat.job]
  have hrunning : ∀ {q : WorkerPoint T}, q.isBusy = true → JobFits j.stage j.abandoned q c :=
    fun hq => hstage ▸ .running hq hcaller
  -- a step that neither opens a cursor nor ends the job
  have hon : ∀ {q : WorkerPoint T}, q.isBusy = true → (∀ i, p ≠ .opened i) → (∀ i, q ≠ .opened i) →
      p' = q → w'.jobs = w.jobs → w'.holdings.cursors = w.holdings.cursors →
      w'.holdings.Balanced w'.workers → w'.Inv := by
    rintro q hq hpo hqo rfl hj hcursors hbalanced
    refine h.quiet hat ⟨hjobs' hj, hworkers, hcalls'⟩ hcursors ?_ hlate (hrunning hq) ?_ id ?_ hbalanced
    · rw [hmakers, noteMaker_of_ne_opened hqo]
    · intro i
      simp [HasCursor, hpo, hqo]
    · intro i hf
      simp [hf, WorkerPoint.isBusy] at hq
  have hend : ∀ stage : JobStage, stage.isEnd = true →
      (∀ i, HasCursor p j.stage i ↔ stage = .opened i) →
      p' = .afterEnd j.abandoned → w'.holdings = w.holdings.setStage k stage →
      (∀ m, p.holds m = false) → w'.Inv := by
    intro stage hs hhas hp' hholdings hholds
    have hjobs : w'.jobs = w.jobs.set k { j with stage } := by
      have he : w'.jobs = (w.holdings.setStage k stage).jobs := congrArg Holdings.jobs hholdings
      rw [he]
      exact modify_eq_set _ hat.job
    have hcursors : w'.holdings.cursors = w.holdings.cursors := by
      rw [hholdings]
      rfl
    have hno : ∀ i, p' ≠ .opened i := fun i => hp' ▸ afterEnd_ne_opened _ i
    refine h.quiet hat ⟨hjobs, hworkers, hcalls'⟩ hcursors ?_ hlate (hp' ▸ .atEnd hs hcaller) ?_ id ?_ ?_
    · rw [hmakers, noteMaker_of_ne_opened hno]
    · intro i
      rw [hhas]
      simp [HasCursor, hno]
    · rintro i hf rfl
      rcases hcaller with ⟨-, hc⟩ | ⟨ha, -⟩
      · simp [CallPoint.isUndecided] at hc
      · simp [hp', ha, WorkerPoint.afterEnd] at hf
    · rw [hholdings, hworkers]
      refine (h.balanced.setStage k stage).moveWorker hat.worker fun m => ?_
      rw [hholds, holds_eq_false]
      rw [hp']
      cases j.abandoned <;> rfl
  generalize hh : w.holdings = before at hadv
  generalize hh' : w'.holdings = next at hadv
  have hjobs : ∀ {before next : Holdings T}, w.holdings = before → w'.holdings = next →
      next.jobs = before.jobs → w'.jobs = w.jobs := by
    rintro _ _ rfl rfl hj
    exact hj
  cases hadv with
  | begin _ budget left =>
    refine hon rfl (by simp) (by simp) rfl (hjobs hh hh' rfl) (by rw [hh, hh']) ?_
    rw [hh', ← hh, hworkers]
    exact h.balanced.moveWorker hat.worker fun m => rfl
  | connect _ budget left connection =>
    refine hon rfl (by simp) (by simp) rfl (hjobs hh hh' rfl) (by rw [hh, hh']) ?_
    rw [hh', ← hh, hworkers]
    exact h.balanced.obtain hat.worker fun m => rfl
  | retry _ budget left =>
    refine hon rfl (by simp) (by simp) rfl (hjobs hh hh' rfl) (by rw [hh, hh']) ?_
    rw [hh', ← hh, hworkers]
    exact h.balanced.moveWorker hat.worker fun m => rfl
  | giveUp _ budget left r =>
    refine hon rfl (by simp) (by simp) rfl (hjobs hh hh' rfl) (by rw [hh, hh']) ?_
    rw [hh', ← hh, hworkers]
    exact h.balanced.moveWorker hat.worker fun m => rfl
  | runFails _ connection r =>
    refine hon rfl (by simp) (by simp) rfl (hjobs hh hh' rfl) (by rw [hh, hh']) ?_
    rw [hh', ← hh, hworkers]
    exact h.balanced.moveWorker hat.worker fun m => rfl
  | close _ connection r r' =>
    refine hon rfl (by simp) (by simp) rfl (hjobs hh hh' rfl) (by rw [hh, hh']) ?_
    rw [hh', ← hh, hworkers]
    exact h.balanced.close hat.worker
  | finish _ cursor =>
    refine hend (.opened cursor) rfl ?_ rfl (hh' ▸ hh ▸ rfl) fun m => rfl
    simp [HasCursor, hstage]
  | fail _ r =>
    refine hend (.failed r) rfl ?_ rfl (hh' ▸ hh ▸ rfl) fun m => rfl
    simp [HasCursor, hstage]
  | release => simp [WorkerPoint.isBusy] at hp
  | run _ connection result =>
    have hholdings : w'.holdings = { w.holdings with
        cursors := w.holdings.cursors ++ [⟨connection, result, j.deadline, false⟩] } := by
      rw [hh', hh]
    exact h.opens hat hholdings (hh ▸ hworkers) hcalls hmakers hlate

theorem holdings_release (w : World ω T) (e : Engine ω T) (k : Nat) :
    (w.release e k).holdings = w.holdings.releaseLate k := by
  have hh : (w.after (Pool.releaseLate e.recorded k)).holdings = w.holdings.releaseLate k :=
    (Pool.holdings_releaseLate e k w.session).1
  unfold release
  split
  · exact hh
  · exact hh

theorem release_of_opened {w : World ω T} {e : Engine ω T} {k i : Nat}
    (h : w.stage? k = some (.opened i)) :
    (w.release e k).holdings = w.holdings.closeCursor i ∧ (w.release e k).late = i :: w.late := by
  refine ⟨?_, by simp only [release, h]⟩
  rw [holdings_release]
  unfold Holdings.releaseLate
  unfold stage? jobs at h
  rw [h]

theorem release_of_not_opened {w : World ω T} {e : Engine ω T} {k : Nat}
    (h : ∀ i, w.stage? k ≠ some (.opened i)) :
    (w.release e k).holdings = w.holdings ∧ (w.release e k).late = w.late := by
  constructor
  · rw [holdings_release]
    unfold Holdings.releaseLate
    split
    · rename_i i hi
      exact absurd hi (h i)
    · rfl
  · unfold release
    split
    · rename_i i hi
      exact absurd hi (h i)
    · rfl

theorem release_workers (w : World ω T) (e : Engine ω T) (k : Nat) :
    (w.release e k).workers = w.workers ∧ (w.release e k).calls = w.calls ∧
      (w.release e k).makers = w.makers := by
  unfold release
  split <;> exact ⟨rfl, rfl, rfl⟩

/-- The callback, wherever it runs: in the worker or in the caller. -/
theorem Inv.release {w w' : World ω T} (h : w.Inv) {e : Engine ω T} {k : Nat} {j : Job T}
    {p p' : WorkerPoint T} {c : CallPoint} (hat : w.At k j p c) (hp : p.isBusy = false)
    (hp' : p'.isBusy = false) (hfits : JobFits j.stage j.abandoned p' .over)
    (hsession : w'.session = (w.release e k).session) (hlate : w'.late = (w.release e k).late)
    (hworkers : w'.workers = w.workers.set k p') (hcalls : w'.calls = w.calls.set k .over)
    (hmakers : w'.makers = w.makers) : w'.Inv := by
  have hholdings : w'.holdings = (w.release e k).holdings := congrArg Session.holdings hsession
  by_cases hopened : ∃ i, j.stage = .opened i
  · obtain ⟨i, hi⟩ := hopened
    obtain ⟨hh, hl⟩ := release_of_opened (e := e) (hat.stage_eq.trans (congrArg some hi))
    refine h.closing hat hi hp hp' (hholdings.trans hh) hworkers hcalls hmakers ?_ hfits fun _ => rfl
    intro m hm
    rw [hlate, hl, List.mem_cons] at hm
    exact hm.elim (fun he => Or.inr ⟨rfl, he⟩) Or.inl
  · have hno : ∀ i, j.stage ≠ .opened i := fun i hi => hopened ⟨i, hi⟩
    obtain ⟨hh, hl⟩ := release_of_not_opened (e := e) (w := w) (k := k) (by simpa [hat.stage_eq] using hno)
    have hjobs : w'.jobs = w.jobs.set k j := by
      rw [set_eq_self hat.job]
      exact congrArg Holdings.jobs (hholdings.trans hh)
    refine h.quiet hat ⟨hjobs, hworkers, hcalls⟩ (by rw [hholdings, hh]) hmakers (hlate.trans hl)
      hfits ?_ (fun _ => rfl) (fun i _ _ => hno i) ?_
    · exact fun i => ⟨fun hi => Or.inr (hi.stage hp'), fun hi => Or.inr (hi.stage hp)⟩
    · rw [hholdings, hh, hworkers]
      refine h.balanced.moveWorker hat.worker fun m => ?_
      rw [holds_eq_false hp, holds_eq_false hp']

theorem IsStart.inv {w : World ω T} (h : w.IsStart) : w.Inv := by
  have hjobs : w.jobs = [] := congrArg Holdings.jobs h.holdings
  have hnone : ∀ {k j p c}, ¬ w.At k j p c := by
    rintro k j p c ⟨hj, -, -⟩
    simp [hjobs] at hj
  constructor
  case workers_length => rw [h.workers, hjobs]; rfl
  case calls_length => rw [h.calls, hjobs]; rfl
  case makers_length => rw [h.makers, h.holdings]; rfl
  case fits => exact fun hat => absurd hat hnone
  case made => exact fun i hat => absurd hat hnone
  case made_lt => simp [h.makers]
  case settled => exact fun hat => absurd hat hnone
  case late_over => simp [h.late]
  case balanced =>
    rw [h.holdings, h.workers]
    exact ⟨fun _ => rfl, fun _ => Nat.le_refl 0⟩

theorem At.eq_of_stage {w : World ω T} {k : Nat} {j : Job T} {p : WorkerPoint T} {c : CallPoint}
    {stage : JobStage} (hat : w.At k j p c) (h : w.stage? k = some stage) : j.stage = stage :=
  Option.some.inj (hat.stage_eq.symm.trans h)

theorem Inv.at_of_stage {w : World ω T} (h : w.Inv) {k : Nat} {stage : JobStage}
    (hs : w.stage? k = some stage) : ∃ j p c, w.At k j p c ∧ j.stage = stage := by
  obtain ⟨j, hj, rfl⟩ := Option.map_eq_some_iff.mp hs
  obtain ⟨j', p, c, hat⟩ := h.exists_at (List.getElem?_eq_some_iff.mp hj).1
  obtain rfl : j' = j := Option.some.inj (hat.job.symm.trans hj)
  exact ⟨j', p, c, hat, rfl⟩

theorem Inv.start {w : World ω T} (h : w.Inv) {k : Nat} (hs : w.stage? k = some .queued) :
    ((w.after (Pool.setStage k .running)).moveWorker k .taken).Inv := by
  obtain ⟨j, p, c, hat, hstage⟩ := h.at_of_stage hs
  have hfits := h.fits hat
  rw [hstage] at hfits
  generalize hb : j.abandoned = b at hfits
  cases hfits with
  | releasing hend => simp [JobStage.isEnd] at hend
  | queued hc =>
    have hch : w.ChangesAt ((w.after (Pool.setStage k .running)).moveWorker k .taken) k
        { j with stage := .running } .taken c :=
      ⟨modify_eq_set _ hat.job, rfl, (set_eq_self hat.call).symm⟩
    refine h.quiet hat hch rfl rfl rfl ?_ ?_ id ?_ ?_
    · simp only [hb]
      exact .awaited rfl (by rcases hc with rfl | rfl <;> rfl)
    · simp [HasCursor, hstage]
    · intro i _ _
      simp
    · exact (h.balanced.setStage k .running).moveWorker hat.worker fun _ => rfl

theorem Inv.cancel {w : World ω T} (h : w.Inv) {k : Nat} (hc : w.calls[k]? = some .timedOut)
    (hs : w.stage? k = some .queued) :
    ((w.after (Pool.setStage k .cancelled)).moveCall k .over).Inv := by
  obtain ⟨j, p, hat⟩ := h.at_of_call hc
  have hstage := hat.eq_of_stage hs
  have hfits := h.fits hat
  rw [hstage] at hfits
  generalize hb : j.abandoned = b at hfits
  cases hfits with
  | queued _ =>
    have hch : w.ChangesAt ((w.after (Pool.setStage k .cancelled)).moveCall k .over) k
        { j with stage := .cancelled } .idle .over :=
      ⟨modify_eq_set _ hat.job, (set_eq_self hat.worker).symm, rfl⟩
    refine h.quiet hat hch rfl rfl rfl (.cancelled rfl) ?_ (fun _ => rfl) ?_
      (h.balanced.setStage k .cancelled)
    · simp [HasCursor, hstage]
    · intro i _ _
      simp

theorem Inv.leaveCallback {w : World ω T} (h : w.Inv) {k : Nat} {j : Job T} {p : WorkerPoint T}
    {c : CallPoint} (hat : w.At k j p .uncancelled) (hfits : JobFits j.stage true p c)
    (hend : ∀ i, p = .finished → c = .over → j.stage ≠ .opened i) :
    ((w.after (World.leaveCallback k)).moveCall k c).Inv := by
  have hch : w.ChangesAt ((w.after (World.leaveCallback k)).moveCall k c) k
      { j with abandoned := true } p c :=
    ⟨modify_eq_set _ hat.job, (set_eq_self hat.worker).symm, rfl⟩
  exact h.quiet hat hch rfl rfl rfl hfits (fun _ => Iff.rfl) (fun ho => absurd ho (by simp)) hend
    ⟨h.balanced.ledger, h.balanced.cursors⟩

theorem Inv.register {w : World ω T} (h : w.Inv) {k : Nat} (hc : w.calls[k]? = some .uncancelled)
    (hs : w.stage? k = some .running) : ((w.after (World.leaveCallback k)).moveCall k .over).Inv := by
  obtain ⟨j, p, hat⟩ := h.at_of_call hc
  have hstage := hat.eq_of_stage hs
  have hfits := h.fits hat
  rw [hstage] at hfits
  have hbusy : p.isBusy = true := by
    generalize j.abandoned = b at hfits
    cases hfits with
    | awaited hp _ => exact hp
  refine h.leaveCallback hat (hstage ▸ .orphaned hbusy) ?_
  rintro i rfl
  simp [WorkerPoint.isBusy] at hbusy

theorem Inv.registerAtEnd {w : World ω T} (h : w.Inv) {k : Nat}
    (hc : w.calls[k]? = some .uncancelled) (hs : w.stage? k ≠ some .running) :
    ((w.after (World.leaveCallback k)).moveCall k .releasing).Inv := by
  obtain ⟨j, p, hat⟩ := h.at_of_call hc
  have hstage : j.stage ≠ .running := fun hr => hs (hat.stage_eq.trans (congrArg some hr))
  refine h.leaveCallback hat ?_ (by simp)
  have hfits := h.fits hat
  generalize j.abandoned = b at hfits
  generalize j.stage = stage at hfits hstage
  cases hfits with
  | queued ho => simp at ho
  | cancelled _ => exact .cancelled rfl
  | awaited _ _ => exact absurd rfl hstage
  | failed _ => exact .failed rfl
  | opened _ => exact .opened (by simp [CallPoint.cursor?])

theorem Inv.workerReleases {w : World ω T} (h : w.Inv) (e : Engine ω T) {k : Nat}
    (hp : w.workers[k]? = some .releasing) : ((w.release e k).moveWorker k .finished).Inv := by
  obtain ⟨j, c, hat⟩ := h.at_of_worker hp
  obtain ⟨hworkers, hcalls, hmakers⟩ := release_workers w e k
  have hfits := h.fits hat
  have hover : c = .over ∧ j.stage.isEnd = true := by
    generalize j.abandoned = b at hfits
    generalize j.stage = stage at hfits
    cases hfits with
    | awaited hbusy _ => simp [WorkerPoint.isBusy] at hbusy
    | orphaned hbusy => simp [WorkerPoint.isBusy] at hbusy
    | releasing hend => exact ⟨rfl, hend⟩
  obtain ⟨rfl, hend⟩ := hover
  have hrest : (.finished : WorkerPoint T).isBusy = false := rfl
  refine h.release hat rfl hrest ?_ rfl rfl ?_ ?_ hmakers
  · generalize j.stage = stage at hend
    cases stage with
    | failed r => exact .failed rfl
    | opened i => exact .opened (by simp [CallPoint.cursor?])
    | _ => simp [JobStage.isEnd] at hend
  · exact congrArg (·.set k .finished) hworkers
  · exact hcalls.trans (set_eq_self hat.call).symm

theorem Inv.callerReleases {w : World ω T} (h : w.Inv) (e : Engine ω T) {k : Nat}
    (hc : w.calls[k]? = some .releasing) : ((w.release e k).moveCall k .over).Inv := by
  obtain ⟨j, p, hat⟩ := h.at_of_call hc
  obtain ⟨hworkers, hcalls, hmakers⟩ := release_workers w e k
  have hfits := h.fits hat
  have hover : p.isBusy = false ∧ JobFits j.stage j.abandoned p .over := by
    generalize j.abandoned = b at hfits
    generalize j.stage = stage at hfits
    cases hfits with
    | queued ho => simp at ho
    | cancelled _ => exact ⟨rfl, .cancelled rfl⟩
    | awaited _ hundecided => simp [CallPoint.isUndecided] at hundecided
    | failed _ => exact ⟨rfl, .failed rfl⟩
    | opened _ => exact ⟨rfl, .opened (by simp [CallPoint.cursor?])⟩
  refine h.release hat hover.1 hover.1 hover.2 rfl rfl ?_ ?_ hmakers
  · exact hworkers.trans (set_eq_self hat.worker).symm
  · exact congrArg (·.set k .over) hcalls

/-- A caller closes the cursor it has. -/
theorem Inv.closeByCaller {w w' : World ω T} (h : w.Inv) {k i : Nat} {c c' : CallPoint}
    (hc : w.calls[k]? = some c) (hcursor : c.cursor? = some i) (hc' : c' = c ∨ c' = .over)
    (hholdings : w'.holdings = w.holdings.closeCursor i) (hworkers : w'.workers = w.workers)
    (hcalls : w'.calls = w.calls.set k c') (hmakers : w'.makers = w.makers)
    (hlate : w'.late = w.late) : w'.Inv := by
  obtain ⟨j, p, hat⟩ := h.at_of_call hc
  have hfits := h.fits hat
  have hopened : j.stage = .opened i ∧ p = .finished ∧ JobFits j.stage j.abandoned p c' := by
    generalize j.abandoned = b at hfits
    generalize j.stage = stage at hfits
    cases hfits with
    | queued ho => rcases ho with rfl | rfl <;> simp [CallPoint.cursor?] at hcursor
    | cancelled hnone => simp [hnone] at hcursor
    | awaited _ hundecided => simp [CallPoint.cursor_of_undecided hundecided] at hcursor
    | failed hnone => simp [hnone] at hcursor
    | orphaned _ => simp [CallPoint.cursor?] at hcursor
    | releasing _ => simp [CallPoint.cursor?] at hcursor
    | opened hk =>
      refine ⟨by rw [hk i hcursor], rfl, ?_⟩
      rcases hc' with rfl | rfl
      · exact .opened hk
      · exact .opened (by simp [CallPoint.cursor?])
  obtain ⟨hstage, rfl, hfits'⟩ := hopened
  refine h.closing hat hstage rfl rfl hholdings ?_ hcalls hmakers ?_ hfits' ?_
  · exact hworkers.trans (set_eq_self hat.worker).symm
  · exact fun m hm => Or.inl (hlate ▸ hm)
  · rintro rfl
    simp [CallPoint.cursor?] at hcursor

variable [Add T] [Sub T] [OfNat T 0] [LT T] [LE T] [DecidableLT T] [DecidableLE T]

/-- Whatever step comes next, the invariant is kept. -/
theorem Inv.step {e : Engine ω T} {plan : PoolPlan T} {w w' : World ω T} (h : w.Inv)
    (hs : Step e plan w w') : w'.Inv := by
  cases hs with
  | ambient s hs => exact h.ambient hs rfl rfl rfl rfl
  | submit sql deadline job s hs =>
    rcases Pool.holdings_submit sql deadline w.session with ⟨r, hr⟩ | ⟨s', hs', hh⟩
    · rw [hr] at hs
      simp at hs
    · rw [hs'] at hs
      obtain ⟨-, rfl⟩ := Prod.mk.inj hs
      exact h.submit hh rfl rfl rfl rfl
  | dispose => exact h.dispose (Pool.holdings_dispose e w.session) rfl rfl rfl rfl
  | work job j p p' s hj hp hbusy hs =>
    obtain ⟨j', c, hat⟩ := h.at_of_worker hp
    obtain rfl : j' = j := Option.some.inj (hat.job.symm.trans hj)
    have hrunning : p.isRunning = true := by
      cases p <;> first | rfl | simp [WorkerPoint.isBusy] at hbusy
    obtain ⟨p'', s'', hs', hadv⟩ := Pool.advance_spec e plan job j' hrunning w.session
    rw [hs'] at hs
    obtain ⟨hp', rfl⟩ := Prod.mk.inj hs
    obtain rfl : p'' = p' := by simpa using hp'
    cases p'' <;> exact h.work hat hbusy hadv rfl rfl rfl rfl
  | start job hstage => exact h.start hstage
  | workerReleases job hp => exact h.workerReleases e hp
  | take job cursor hc hstage =>
    obtain ⟨j, p, hat⟩ := h.at_of_call hc
    have hs := hat.eq_of_stage hstage
    obtain rfl := (hs ▸ h.fits hat).of_cursor (by simp)
    exact h.moveCall hat (hs ▸ .opened (by simp [CallPoint.cursor?])) (by simp) (by simp)
  | takeForPing job cursor hc hstage =>
    obtain ⟨j, p, hat⟩ := h.at_of_call hc
    have hs := hat.eq_of_stage hstage
    obtain rfl := (hs ▸ h.fits hat).of_cursor (by simp)
    exact h.moveCall hat (hs ▸ .opened (by simp [CallPoint.cursor?])) (by simp) (by simp)
  | raise job r hc hstage =>
    obtain ⟨j, p, hat⟩ := h.at_of_call hc
    have hs := hat.eq_of_stage hstage
    exact h.moveCall hat (hs ▸ (hs ▸ h.fits hat).raise) (by simp) (by simp [hs])
  | raiseCancelled job hc hstage =>
    obtain ⟨c, hne, hc⟩ : ∃ c, c ≠ .over ∧ w.calls[job]? = some c := by
      rcases hc with hc | hc
      · exact ⟨_, by simp, hc⟩
      · exact ⟨_, by simp, hc⟩
    obtain ⟨j, p, hat⟩ := h.at_of_call hc
    have hs := hat.eq_of_stage hstage
    exact h.moveCall hat (hs ▸ (hs ▸ h.fits hat).raiseCancelled) hne (by simp [hs])
  | timeOut job hc =>
    obtain ⟨j, p, hat⟩ := h.at_of_call hc
    exact h.moveCall hat (h.fits hat).timeOut (by simp) (by simp)
  | cancel job hc hstage => exact h.cancel hc hstage
  | cancelFails job hc hstage =>
    obtain ⟨j, p, hat⟩ := h.at_of_call hc
    have hs : j.stage ≠ .queued := fun hq => hstage (hat.stage_eq.trans (congrArg some hq))
    exact h.moveCall hat ((h.fits hat).cancelFails hs) (by simp) (by simp)
  | register job hc hstage => exact h.register hc hstage
  | registerAtEnd job hc hstage => exact h.registerAtEnd hc hstage
  | callerReleases job hc => exact h.callerReleases e hc
  | close job cursor hc =>
    exact h.closeByCaller hc rfl (Or.inl rfl) (Pool.holdings_closeCursor e cursor w.session) rfl
      (set_eq_self hc).symm rfl rfl
  | closePing job cursor hc =>
    exact h.closeByCaller hc rfl (Or.inr rfl) (Pool.holdings_closeCursor e cursor w.session) rfl rfl
      rfl rfl

theorem IsReached.inv {e : Engine ω T} {plan : PoolPlan T} {w : World ω T}
    (h : w.IsReached e plan) : w.Inv := by
  obtain ⟨start, hstart, hpath⟩ := h
  induction hpath with
  | refl => exact hstart.inv
  | tail _ hs ih => exact ih.step hs

end World

end QueryGate
