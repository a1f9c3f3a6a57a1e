import QueryGate.Connection.Config
import QueryGate.Connection.Deadline
import QueryGate.Proofs.Number.FloatOrder
import QueryGate.Proofs.Payload.Field
/-! The ranges of the settings of a connection. What is read as a config has a time for its statements, and no
amount in it is below zero or not a number. -/

namespace QueryGate

/-! Amounts compared with zero. -/

namespace Amount

/-- The comparison is made in the form that the amount has. -/
def IsPositive : Amount → Prop
  | .whole n => 0 < n
  | .real x => 0.0 < x

def IsFromZero : Amount → Prop
  | .whole n => 0 ≤ n
  | .real x => 0.0 ≤ x

/-- The exact number of an amount, unless it is not a number. -/
noncomputable def value? : Amount → Option EReal
  | .whole n => (Cell.int n).number?.map ExactNumber.toEReal
  | .real x => (Cell.float x).number?.map ExactNumber.toEReal

theorem value?_whole (n : Int) : (whole n).value? = some ((n : ℝ) : EReal) := by
  simp [value?, Cell.number?, ExactNumber.toEReal]

theorem isPositive_iff (a : Amount) : a.IsPositive ↔ ∃ t, a.value? = some t ∧ 0 < t := by
  cases a with
  | whole n => simp [IsPositive, value?_whole]
  | real x =>
    simp only [IsPositive, zero_lt_iff, value?, Option.map_eq_some_iff]
    exact ⟨fun ⟨n, hn, h⟩ => ⟨_, ⟨n, hn, rfl⟩, h⟩, fun ⟨_, ⟨n, hn, ht⟩, h⟩ => ⟨n, hn, ht ▸ h⟩⟩

theorem isFromZero_iff (a : Amount) : a.IsFromZero ↔ ∃ t, a.value? = some t ∧ 0 ≤ t := by
  cases a with
  | whole n => simp [IsFromZero, value?_whole]
  | real x =>
    simp only [IsFromZero, zero_le_iff, value?, Option.map_eq_some_iff]
    exact ⟨fun ⟨n, hn, h⟩ => ⟨_, ⟨n, hn, rfl⟩, h⟩, fun ⟨_, ⟨n, hn, ht⟩, h⟩ => ⟨n, hn, ht ▸ h⟩⟩

end Amount

/-- In exact arithmetic the time that is left at first is the time that was given. -/
theorem Deadline.expired_after (label : String) (t : EReal) (now : ℝ) :
    (Deadline.after label t (now : EReal)).expired now = decide (t ≤ 0) := by
  have hleft : (Deadline.after label t (now : EReal)).expiresAt - now = t := EReal.add_sub_cancel_left
  unfold expired remaining
  rw [hleft]
  by_cases h : 0 < t
  · rw [if_pos h]
  · rw [if_neg h, decide_eq_true (le_refl 0), decide_eq_true (not_lt.mp h)]

/-! Readings with a bound. -/

def readAmount (j : Json) : Checked Amount :=
  (readNumber j).map .real

theorem readNat_eq_ok {j : Json} {n : Nat} (h : readNat 0 j = .ok n) : readInteger j = .ok (n : Int) := by
  obtain ⟨i, hi, rfl⟩ := Checked.map_eq_ok_iff.mp h
  obtain ⟨hread, hle⟩ := Checked.bounded_eq_ok hi
  rw [hread, Int.toNat_of_nonneg hle]

theorem readPositiveAmount_eq_ok {j : Json} {a : Amount} (h : readPositiveAmount j = .ok a) :
    readAmount j = .ok a ∧ a.IsPositive := by
  obtain ⟨x, hx, rfl⟩ := Checked.map_eq_ok_iff.mp h
  obtain ⟨hread, hlt⟩ := Checked.bounded_eq_ok hx
  exact ⟨Checked.map_eq_ok_iff.mpr ⟨x, hread, rfl⟩, hlt⟩

theorem readAmountFromZero_eq_ok {j : Json} {a : Amount} (h : readAmountFromZero j = .ok a) :
    readAmount j = .ok a ∧ a.IsFromZero := by
  obtain ⟨x, hx, rfl⟩ := Checked.map_eq_ok_iff.mp h
  obtain ⟨hread, hle⟩ := Checked.bounded_eq_ok hx
  exact ⟨Checked.map_eq_ok_iff.mpr ⟨x, hread, rfl⟩, hle⟩

/-! Configs. -/

/-- The amounts and counts of a config are those that the members give, none of them cut off. -/
structure ConnectionConfig.HasLimitsOf (c : ConnectionConfig) (m : Members Json) : Prop where
  statementTimeout : IsGiven m ["timeout", "statement_timeout"] (.whole 60) readAmount c.statementTimeout
  retryPause : IsGiven m ["pause", "retry_pause"] (.whole 0) readAmount c.retryPause
  retryTimeout : IsGiven m ["retryTimeout", "retry_timeout"] (.whole 40) readAmount c.retryTimeout
  rowCap : IsGiven m ["maxRows", "row_cap"] 10000 readInteger c.rowCap
  retryCount : IsGiven m ["retries", "retry_count"] 5 readInteger c.retryCount

structure ConnectionConfig.InRange (c : ConnectionConfig) : Prop where
  statementTimeout : c.statementTimeout.IsPositive
  retryPause : c.retryPause.IsFromZero
  retryTimeout : c.retryTimeout.IsFromZero
  rowCap : (0 : Int) ≤ c.rowCap
  retryCount : (0 : Int) ≤ c.retryCount

theorem ConnectionConfig.of_read {m : Members Json} {c : ConnectionConfig}
    (h : ConnectionConfig.read (.object m) = .ok c) : c.HasLimitsOf m ∧ c.InRange := by
  simp only [ConnectionConfig.read, readRecord, Checked.andThen, Checked.seq_eq_ok_iff, Checked.map_eq_ok_iff,
    fieldOr_eq_ok_iff] at h
  obtain ⟨_, _, ⟨_, _, ⟨_, total, ⟨_, pause, ⟨_, count, ⟨_, timeout, ⟨_, cap, ⟨_, _, ⟨_, _, ⟨_, _, ⟨_, -, rfl⟩, -, rfl⟩,
    -, rfl⟩, -, rfl⟩, hcap, rfl⟩, htimeout, rfl⟩, hcount, rfl⟩, hpause, rfl⟩, htotal, rfl⟩, -, rfl⟩, -, rfl⟩ := h
  refine ⟨⟨?_, ?_, ?_, ?_, ?_⟩, ?_, ?_, ?_, ?_, ?_⟩
  · exact htimeout.imp id fun _ hread => (readPositiveAmount_eq_ok hread).1
  · exact hpause.imp id fun _ hread => (readAmountFromZero_eq_ok hread).1
  · exact htotal.imp id fun _ hread => (readAmountFromZero_eq_ok hread).1
  · exact hcap.imp Int.ofNat fun _ hread => readNat_eq_ok hread
  · exact hcount.imp Int.ofNat fun _ hread => readNat_eq_ok hread
  · exact htimeout.holds (show (0 : Int) < 60 by decide) fun _ hread => (readPositiveAmount_eq_ok hread).2
  · exact hpause.holds (show (0 : Int) ≤ 0 by decide) fun _ hread => (readAmountFromZero_eq_ok hread).2
  · exact htotal.holds (show (0 : Int) ≤ 40 by decide) fun _ hread => (readAmountFromZero_eq_ok hread).2
  · exact Int.natCast_nonneg cap
  · exact Int.natCast_nonneg count

theorem ConnectionConfig.HasLimitsOf.of_put {c : ConnectionConfig} {m : Members Json} {token : Json}
    (h : c.HasLimitsOf (m.put "credential" token)) : c.HasLimitsOf m := by
  have hsame : ∀ {α : Type} {names : List String} {default value : α} {read : Json → Checked α},
      "credential" ∉ names → IsGiven (m.put "credential" token) names default read value →
      IsGiven m names default read value := by
    intro α names default value read hnames hgiven
    rwa [IsGiven, firstMember_put m hnames] at hgiven
  exact ⟨hsame (by decide) h.statementTimeout, hsame (by decide) h.retryPause, hsame (by decide) h.retryTimeout,
    hsame (by decide) h.rowCap, hsame (by decide) h.retryCount⟩

theorem of_loadSettings {payload : SettingsPayload} {secrets : Members Json} {c : ConnectionConfig}
    (h : loadSettings payload secrets = .ok c) :
    ∃ m token, payload.json = .ok (.object m) ∧ ConnectionConfig.read (.object (Members.put m "credential" token)) = .ok c := by
  unfold loadSettings at h
  cases hjson : payload.json with
  | error r =>
    rw [hjson] at h
    cases h
  | ok j =>
    rw [hjson] at h
    cases j with
    | object m =>
      dsimp only [bind, Except.bind] at h
      split at h
      · next hread =>
        cases h
        exact ⟨m, _, rfl, hread⟩
      · cases h
    | _ => cases h

/-- A config that was loaded has the limits that its payload gives, and they are in range: each comparison holds, so
that none of them is not a number. A deadline of its statements has time left when it is set. -/
theorem loadSettings_inRange {payload : SettingsPayload} {secrets : Members Json} {c : ConnectionConfig}
    (h : loadSettings payload secrets = .ok c) :
    (∃ m, payload.json = .ok (.object m) ∧ c.HasLimitsOf m) ∧ c.InRange ∧
      ∃ t, c.statementTimeout.value? = some t ∧
        ∀ (label : String) (now : ℝ), (Deadline.after label t (now : EReal)).expired now = false := by
  obtain ⟨m, token, hjson, hread⟩ := of_loadSettings h
  obtain ⟨hlimits, hrange⟩ := ConnectionConfig.of_read hread
  obtain ⟨t, ht, hpos⟩ := c.statementTimeout.isPositive_iff.mp hrange.statementTimeout
  refine ⟨⟨m, hjson, hlimits.of_put⟩, hrange, t, ht, fun label now => ?_⟩
  rw [Deadline.expired_after, decide_eq_false (not_le.mpr hpos)]

/-- Of two members of one name the later counts, and of two names of one field the short one; a text and an infinity
are amounts. -/
theorem loadSettings_inRange_twice :
    let payload := SettingsPayload.text
      "\x7b\"pause\": 5, \"timeout\": -1, \"statement_timeout\": NaN, \"timeout\": Infinity, \"pause\": \"0_2.5\"\x7d"
    ∃ c, loadSettings payload [] = .ok c ∧ c.statementTimeout.text = "inf" ∧ c.retryPause.text = "2.5" ∧ c.InRange := by
  intro payload
  have htexts : (loadSettings payload []).toOption.map (fun c => (c.statementTimeout.text, c.retryPause.text)) =
      some ("inf", "2.5") := by decide +kernel
  cases hload : loadSettings payload [] with
  | error r =>
    rw [hload] at htexts
    cases htexts
  | ok c =>
    rw [hload] at htexts
    obtain ⟨htimeout, hpause⟩ := Prod.mk.inj (Option.some.inj htexts)
    obtain ⟨-, hrange, -⟩ := loadSettings_inRange hload
    exact ⟨c, rfl, htimeout, hpause, hrange⟩

end QueryGate
