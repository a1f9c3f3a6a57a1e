import Mathlib.Algebra.Order.Group.Int
import QueryGate.Connection.Pool
import QueryGate.Proofs.Connection.Sharing
/-! How a connection is sought. One attempt follows another until one succeeds, one fails with an error that
is not of the database, or the next could not begin before the deadline and the end of the budget. -/

namespace QueryGate

/-- An attempt to connect, with the times at which it began and ended. -/
structure Attempt (T : Type) where
  began : T
  ended : T
  result : Except Raised Nat

/-- What is done while a connection is sought. -/
inductive Deed (T : Type)
  | attempt (a : Attempt T)
  | pause (began ended : T)

def Deed.attempt? {T : Type} : Deed T → Option (Attempt T)
  | .attempt a => some a
  | .pause .. => none

def attemptsOf {T : Type} (deeds : List (Deed T)) : List (Attempt T) :=
  deeds.filterMap Deed.attempt?

variable {ω T : Type}

/-- The engine with a list of its attempts and pauses beside it, which it only writes. -/
def Engine.timed (e : Engine ω T) : Engine (ω × List (Deed T)) T where
  now w := e.now w.1
  sleep t w := (e.sleep t w.1, w.2 ++ [.pause (e.now w.1) (e.now (e.sleep t w.1))])
  wait t w := (e.wait t w.1, w.2)
  turn w := e.turn w.1
  begin w := (e.begin w.1, w.2)
  connect w := ((e.connect w.1).1, (e.connect w.1).2,
    w.2 ++ [.attempt ⟨e.now w.1, e.now (e.connect w.1).2, (e.connect w.1).1⟩])
  run connection sql w := ((e.run connection sql w.1).1, (e.run connection sql w.1).2, w.2)
  columns result w := e.columns result w.1
  fetch result size w := ((e.fetch result size w.1).1, (e.fetch result size w.1).2, w.2)
  fetchesLeft result w := e.fetchesLeft result w.1
  closeResult result w := ((e.closeResult result w.1).1, (e.closeResult result w.1).2, w.2)
  closeConnection connection w :=
    ((e.closeConnection connection w.1).1, (e.closeConnection connection w.1).2, w.2)
  dispose w := (e.dispose w.1, w.2)

/-- The plan of some settings: at least one attempt, and no budget if its time is zero. -/
def PoolPlan.retrying [OfNat T 0] [LT T] [DecidableLT T] (name : String) (retries : Nat) (pause : T)
    (label : String) (timeout : T) (batchSize : Nat) : PoolPlan T where
  name := name
  attempts := max 1 retries
  pause := pause
  budget := if 0 < timeout then some (label, timeout) else none
  batchSize := batchSize

theorem PoolPlan.ofConfig_eq (c : ConnectionConfig) : PoolPlan.ofConfig c =
    .retrying c.name c.retryCount c.retryPause.toFloat c.retryTimeout.text c.retryTimeout.toFloat fetchBatchSize :=
  rfl

theorem Deadline.remaining_le_iff [AddCommGroup T] [LinearOrder T] [IsOrderedAddMonoid T] (d : Deadline T)
    {now pause : T} (hpause : 0 ≤ pause) : d.remaining now ≤ pause ↔ d.expiresAt ≤ now + pause := by
  unfold Deadline.remaining
  split
  · exact sub_le_iff_le_add'
  · rename_i hpast
    refine iff_of_true hpause ?_
    calc d.expiresAt ≤ now := sub_nonpos.mp (not_lt.mp hpast)
      _ ≤ now + pause := le_add_of_nonneg_right hpause

namespace Pool

/-- Whether a time is before the deadline and before the end of the budget. -/
def IsEarly [LT T] (deadline : Deadline T) (budget : Option (Deadline T)) (time : T) : Prop :=
  time < deadline.expiresAt ∧ ∀ b ∈ budget, time < b.expiresAt

/-- What comes of the last attempt, after `count` others. -/
inductive Concludes [Add T] [LT T] (plan : PoolPlan T) (deadline : Deadline T) (budget : Option (Deadline T))
    (left count : Nat) (last : Attempt T) : Except Raised Nat → Prop
  | connected {connection : Nat} (h : last.result = .ok connection) :
    Concludes plan deadline budget left count last (.ok connection)
  | raised {r : Raised} (h : last.result = .error r) (hother : r.isDatabaseFault = false) :
    Concludes plan deadline budget left count last (.error r)
  | gaveUp {f : Fault} (h : last.result = .error (.fault f)) (hdatabase : (Raised.fault f).isDatabaseFault = true)
    (hend : count = left ∨ ¬ IsEarly deadline budget (last.ended + plan.pause)) :
    Concludes plan deadline budget left count last
      (.error (.failure ⟨.remote, "Failed to connect to " ++ plan.name ++ ": " ++ f.message, some f.kind⟩))

/-- A search for a connection that began at a time, with all that was done before its last attempt. So many
attempts might follow the first. -/
structure Sought [Add T] [LT T] (plan : PoolPlan T) (deadline : Deadline T) (budget : Option (Deadline T))
    (left : Nat) (start : T) (earlier : List (Deed T)) (last : Attempt T) (result : Except Raised Nat) : Prop where
  count : (attemptsOf earlier).length ≤ left
  /-- Each attempt but the last failed with an error of the database. -/
  failed : ∀ a ∈ attemptsOf earlier, ∃ f, a.result = .error (.fault f) ∧ (Raised.fault f).isDatabaseFault = true
  pauses : ∀ began ended, .pause began ended ∈ earlier →
    ended = began + plan.pause ∧ IsEarly deadline budget ended
  attempts : ∃ first later, attemptsOf (earlier ++ [.attempt last]) = first :: later ∧ first.began = start ∧
    ∀ a ∈ later, IsEarly deadline budget a.began
  concludes : Concludes plan deadline budget left (attemptsOf earlier).length last result

theorem attemptsOf_attempt (a : Attempt T) (deeds : List (Deed T)) :
    attemptsOf (.attempt a :: deeds) = a :: attemptsOf deeds :=
  rfl

theorem attemptsOf_append (deeds more : List (Deed T)) :
    attemptsOf (deeds ++ more) = attemptsOf deeds ++ attemptsOf more :=
  List.filterMap_append

/-- The pause after an attempt that ended at a time. -/
def pauseFrom [OfNat T 0] [LT T] [DecidableLT T] [Add T] (plan : PoolPlan T) (ended : T) : List (Deed T) :=
  if 0 < plan.pause then [.pause ended (ended + plan.pause)] else []

section Steps

variable {e : Engine ω T}

/-- An attempt is noted, and gives a connection or an error, which is a value if it is of the database. -/
theorem tryConnect_timed (plan : PoolPlan T) (attempt : Nat) (s : Session (Pool (ω × List (Deed T)) T)) :
    ∃ result s', s'.outside.engine.2 = s.outside.engine.2 ++
        [.attempt ⟨e.now s.outside.engine.1, e.now s'.outside.engine.1, result⟩] ∧
      ((∃ connection, result = .ok connection ∧
          (tryConnect e.timed plan attempt).outcome s = (.ok (.ok connection), s')) ∨
        (∃ f, result = .error (.fault f) ∧ (Raised.fault f).isDatabaseFault = true ∧
          (tryConnect e.timed plan attempt).outcome s = (.ok (.error (.fault f)), s')) ∨
        ∃ r, result = .error r ∧ r.isDatabaseFault = false ∧
          (tryConnect e.timed plan attempt).outcome s = (.error r, s')) := by
  have hresult : (e.timed.connect s.outside.engine).1 = (e.connect s.outside.engine.1).1 := rfl
  unfold tryConnect engineStep
  rw [Act.outcome_bind, Act.outcome_step]
  dsimp only
  rw [hresult]
  cases hcase : (e.connect s.outside.engine.1).1 with
  | ok connection =>
    refine ⟨.ok connection, _, ?_, Or.inl ⟨connection, rfl, rfl⟩⟩
    rw [← hcase]
    rfl
  | error r =>
    dsimp only
    cases hkind : r.isDatabaseFault with
    | true =>
      cases r with
      | failure f => cases hkind
      | fault f =>
        refine ⟨.error (.fault f), _, ?_, Or.inr (Or.inl ⟨f, rfl, hkind, rfl⟩)⟩
        rw [← hcase]
        rfl
    | false =>
      refine ⟨.error r, _, ?_, Or.inr (Or.inr ⟨r, rfl, hkind, rfl⟩)⟩
      rw [← hcase]
      rfl

variable [AddCommGroup T] [LinearOrder T]

theorem pauseBetween_timed (hsleep : ∀ t w, 0 < t → e.now (e.sleep t w) = e.now w + t) {plan : PoolPlan T}
    (hpause : 0 ≤ plan.pause) (s : Session (Pool (ω × List (Deed T)) T)) :
    ∃ s', (pauseBetween e.timed plan).outcome s = (.ok (), s') ∧
      e.now s'.outside.engine.1 = e.now s.outside.engine.1 + plan.pause ∧
      s'.outside.engine.2 = s.outside.engine.2 ++ pauseFrom plan (e.now s.outside.engine.1) := by
  unfold pauseBetween pauseFrom
  split
  · rename_i hlong
    have hslept := hsleep plan.pause s.outside.engine.1 hlong
    exact ⟨_, rfl, hslept, by rw [← hslept]; rfl⟩
  · rename_i hnone
    rw [le_antisymm (not_lt.mp hnone) hpause, add_zero, List.append_nil]
    exact ⟨_, rfl, rfl, rfl⟩

variable [IsOrderedAddMonoid T]

/-- There is no time for another attempt if the pause before it would not end early. -/
theorem outOfTime_outcome {plan : PoolPlan T} (hpause : 0 ≤ plan.pause) (deadline : Deadline T)
    (budget : Option (Deadline T)) (s : Session (Pool ω T)) :
    ∃ late, (outOfTime e plan deadline budget).outcome s = (.ok late, s) ∧
      (late = false ↔ IsEarly deadline budget (e.now s.outside.engine + plan.pause)) := by
  have hone : ∀ d : Deadline T, (noTimeAfter e plan.pause d).outcome s =
      (.ok (decide (d.remaining (e.now s.outside.engine) ≤ plan.pause)), s) := fun _ => rfl
  have hlate : ∀ d : Deadline T, decide (d.remaining (e.now s.outside.engine) ≤ plan.pause) = false ↔
      e.now s.outside.engine + plan.pause < d.expiresAt := by
    intro d
    rw [decide_eq_false_iff_not, d.remaining_le_iff hpause, not_le]
  unfold outOfTime IsEarly
  cases budget with
  | none => exact ⟨_, hone deadline, by simp [hlate]⟩
  | some b =>
    rw [Act.outcome_bind, hone b]
    dsimp only
    split
    · rename_i hb
      have hnot := mt (hlate b).mpr (by simp [hb])
      exact ⟨true, rfl, iff_of_false (by simp) fun h => hnot (h.2 b rfl)⟩
    · rename_i hb
      have hearly := (hlate b).mp (by simpa using hb)
      refine ⟨_, hone deadline, (hlate deadline).trans ⟨fun h => ⟨h, ?_⟩, And.left⟩⟩
      rintro _ ⟨⟩
      exact hearly

end Steps

section Search

variable [AddCommGroup T] [LinearOrder T] {e : Engine ω T} {plan : PoolPlan T} {deadline : Deadline T}
  {budget : Option (Deadline T)}

theorem Sought.only {left : Nat} {began ended : T} {given result : Except Raised Nat}
    (h : Concludes plan deadline budget left 0 ⟨began, ended, given⟩ result) :
    Sought plan deadline budget left began [] ⟨began, ended, given⟩ result where
  count := Nat.zero_le left
  failed := by simp [attemptsOf]
  pauses := by simp
  attempts := ⟨_, [], rfl, rfl, by simp⟩
  concludes := h

/-- A search that another attempt comes before, with the pause after it. -/
theorem Sought.after {left : Nat} {began ended : T} {f : Fault} {earlier : List (Deed T)} {last : Attempt T}
    {result : Except Raised Nat} (hdatabase : (Raised.fault f).isDatabaseFault = true)
    (hearly : IsEarly deadline budget (ended + plan.pause))
    (h : Sought plan deadline budget left (ended + plan.pause) earlier last result) :
    Sought plan deadline budget (left + 1) began
      (.attempt ⟨began, ended, .error (.fault f)⟩ :: (pauseFrom plan ended ++ earlier)) last result := by
  have hpause : attemptsOf (pauseFrom plan ended) = [] := by
    unfold pauseFrom
    split <;> rfl
  have hattempts : ∀ deeds, attemptsOf (.attempt ⟨began, ended, .error (.fault f)⟩ :: (pauseFrom plan ended ++ deeds)) =
      ⟨began, ended, .error (.fault f)⟩ :: attemptsOf deeds := by
    intro deeds
    rw [attemptsOf_attempt, attemptsOf_append, hpause, List.nil_append]
  refine ⟨?_, ?_, ?_, ?_, ?_⟩
  · rw [hattempts]
    exact Nat.succ_le_succ h.count
  · rw [hattempts]
    exact List.forall_mem_cons.mpr ⟨⟨f, rfl, hdatabase⟩, h.failed⟩
  · intro from' until' hmem
    have hlater := (List.mem_cons.mp hmem).resolve_left (by simp)
    rcases List.mem_append.mp hlater with hpaused | hrest
    · unfold pauseFrom at hpaused
      split at hpaused
      · obtain ⟨rfl, rfl⟩ := Deed.pause.inj (List.mem_singleton.mp hpaused)
        exact ⟨rfl, hearly⟩
      · cases hpaused
    · exact h.pauses from' until' hrest
  · obtain ⟨first, later, heq, hfirst, hlater⟩ := h.attempts
    rw [List.cons_append, List.append_assoc, hattempts, heq]
    exact ⟨_, _, rfl, rfl, List.forall_mem_cons.mpr ⟨hfirst ▸ hearly, hlater⟩⟩
  · rw [hattempts]
    cases h.concludes with
    | connected hok => exact .connected hok
    | raised herror hother => exact .raised herror hother
    | gaveUp herror hkind hend => exact .gaveUp herror hkind (hend.imp_left (congrArg Nat.succ))

variable [IsOrderedAddMonoid T]

theorem connectFrom_sought (hsleep : ∀ t w, 0 < t → e.now (e.sleep t w) = e.now w + t) (hpause : 0 ≤ plan.pause)
    (left : Nat) (s : Session (Pool (ω × List (Deed T)) T)) :
    ∃ earlier last result s', (connectFrom e.timed plan deadline budget left).outcome s = (result, s') ∧
      s'.outside.engine.2 = s.outside.engine.2 ++ (earlier ++ [.attempt last]) ∧
      Sought plan deadline budget left (e.now s.outside.engine.1) earlier last result := by
  induction left generalizing s with
  | zero =>
    obtain ⟨_, s₁, hnoted, htry⟩ := tryConnect_timed (e := e) plan plan.attempts s
    unfold connectFrom
    rw [Act.outcome_bind]
    rcases htry with ⟨connection, rfl, htry⟩ | ⟨f, rfl, hdatabase, htry⟩ | ⟨r, rfl, hother, htry⟩
    · rw [htry]
      exact ⟨[], _, _, s₁, rfl, hnoted, .only (.connected rfl)⟩
    · rw [htry]
      exact ⟨[], _, _, s₁, rfl, hnoted, .only (.gaveUp rfl hdatabase (Or.inl rfl))⟩
    · rw [htry]
      exact ⟨[], _, _, s₁, rfl, hnoted, .only (.raised rfl hother)⟩
  | succ left ih =>
    obtain ⟨_, s₁, hnoted, htry⟩ := tryConnect_timed (e := e) plan (plan.attempts - (left + 1)) s
    unfold connectFrom
    rw [Act.outcome_bind]
    rcases htry with ⟨connection, rfl, htry⟩ | ⟨f, rfl, hdatabase, htry⟩ | ⟨r, rfl, hother, htry⟩
    · rw [htry]
      exact ⟨[], _, _, s₁, rfl, hnoted, .only (.connected rfl)⟩
    · obtain ⟨late, hlate, hearly⟩ := outOfTime_outcome (e := e.timed) hpause deadline budget s₁
      rw [htry]
      dsimp only
      rw [Act.outcome_bind, hlate]
      cases late with
      | true =>
        exact ⟨[], _, _, s₁, rfl, hnoted, .only (.gaveUp rfl hdatabase (Or.inr fun h => nomatch hearly.mpr h))⟩
      | false =>
        obtain ⟨s₂, hpaused, hnow, hpauses⟩ := pauseBetween_timed hsleep hpause s₁
        obtain ⟨earlier, last, result, s', hrest, hdeeds, hsought⟩ := ih s₂
        rw [hnow] at hsought
        refine ⟨_, last, result, s', ?_, ?_, hsought.after hdatabase (hearly.mp rfl)⟩
        · dsimp only
          rw [if_neg Bool.false_ne_true, Act.outcome_bind, hpaused]
          exact hrest
        · rw [hdeeds, hpauses, hnoted]
          simp [Engine.timed]
    · rw [htry]
      exact ⟨[], _, _, s₁, rfl, hnoted, .only (.raised rfl hother)⟩

end Search

end Pool

end QueryGate
