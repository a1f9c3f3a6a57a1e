import QueryGate.Proofs.Query.Range
import QueryGate.Proofs.Statement.Letter
/-! How many marks a value has. They are counted in its upper case from left to right, and there are as many
as can be chosen in the value itself without letting two share a character. -/

namespace QueryGate

/-! Counting from left to right. -/

/-- At least `n` marks one behind the other, no two of which share a character. A character is compared
with the one of the mark after `up`. -/
inductive HasMarks (up : Char → Char) : Nat → List Char → Prop
  | none (cs : List Char) : HasMarks up 0 cs
  | next {n : Nat} {low sep high : List Char} (hsep : sep.map up = andMark) (h : HasMarks up n high) :
    HasMarks up (n + 1) (low ++ (sep ++ high))

/-- One mark in whatever case, and no second one beside it. -/
def HasOneMark (cs : List Char) : Prop :=
  HasMarks Char.toUpper 1 cs ∧ ¬ HasMarks Char.toUpper 2 cs

theorem HasMarks.cons {up : Char → Char} {n : Nat} {cs : List Char} (h : HasMarks up n cs) (c : Char) :
    HasMarks up n (c :: cs) := by
  cases h with
  | none => exact .none _
  | @next n low sep high hsep h => exact show HasMarks up (n + 1) (c :: low ++ (sep ++ high)) from .next hsep h

/-- To begin later is to count no more, and up to five characters later no less by more than one. -/
theorem countMarks_skip (cs : List Char) {j k : Nat} (hjk : j ≤ k) :
    countMarks k cs ≤ countMarks j cs ∧ (k ≤ j + 5 → countMarks j cs ≤ countMarks k cs + 1) := by
  induction cs generalizing j k with
  | nil => exact ⟨Nat.le_refl _, fun _ => Nat.zero_le _⟩
  | cons c cs ih =>
    match j, k with
    | j + 1, k + 1 =>
      obtain ⟨hless, hone⟩ := ih (j := j) (k := k) (by omega)
      exact ⟨hless, fun hk => hone (by omega)⟩
    | 0, 0 => exact ⟨Nat.le_refl _, fun _ => Nat.le_succ _⟩
    | 0, k + 1 =>
      by_cases hmark : andMark.isPrefixOf (c :: cs) = true
      · rw [countMarks, countMarks, if_pos hmark]
        by_cases hk : k ≤ 4
        · obtain ⟨hless, hone⟩ := ih (j := k) (k := 4) hk
          have hmore := hone (by omega)
          exact ⟨by omega, fun _ => by omega⟩
        · obtain ⟨hless, -⟩ := ih (j := 4) (k := k) (by omega)
          exact ⟨by omega, fun _ => by omega⟩
      · rw [countMarks, countMarks, if_neg hmark]
        obtain ⟨hless, hone⟩ := ih (j := 0) (k := k) (Nat.zero_le _)
        exact ⟨hless, fun hk => hone (by omega)⟩

theorem countMarks_append (before cs : List Char) :
    countMarks before.length (before ++ cs) = countMarks 0 cs := by
  induction before with
  | nil => rfl
  | cons c before ih => exact ih

theorem countMarks_mark (cs : List Char) : countMarks 0 (andMark ++ cs) = countMarks 0 cs + 1 := by
  have hmark : andMark.isPrefixOf (andMark ++ cs) = true :=
    List.isPrefixOf_iff_prefix.mpr (List.prefix_append _ _)
  have hletters : andMark = ' ' :: "AND ".toList := by decide
  rw [hletters] at hmark
  rw [hletters, List.cons_append, countMarks, if_pos (hletters ▸ hmark)]
  exact congrArg (· + 1) (countMarks_append "AND ".toList cs)

theorem countMarks_le {n skip : Nat} {cs : List Char} (h : n ≤ countMarks skip cs) :
    HasMarks id n (cs.drop skip) := by
  induction cs generalizing n skip with
  | nil =>
    obtain rfl : n = 0 := Nat.le_zero.mp h
    exact .none _
  | cons c cs ih =>
    match skip with
    | k + 1 => exact ih h
    | 0 =>
      rw [countMarks] at h
      by_cases hmark : andMark.isPrefixOf (c :: cs) = true
      · rw [if_pos hmark] at h
        cases n with
        | zero => exact .none _
        | succ n =>
          have hhere := List.prefix_iff_eq_append.mp (List.isPrefixOf_iff_prefix.mp hmark)
          have hrest : HasMarks id n (cs.drop 4) := ih (by omega)
          have hnext : HasMarks id (n + 1) ([] ++ (andMark ++ cs.drop 4)) := .next (List.map_id _) hrest
          rw [List.nil_append] at hnext
          rwa [List.drop_zero, ← hhere]
      · rw [if_neg hmark] at h
        exact (ih h).cons c

/-- No way to choose marks finds more of them than looking for the next one from left to right. -/
theorem HasMarks.le_countMarks {n : Nat} {cs : List Char} (h : HasMarks id n cs) : n ≤ countMarks 0 cs := by
  induction h with
  | none => exact Nat.zero_le _
  | @next n low sep high hsep h ih =>
    have hmark : sep = andMark := (List.map_id sep).symm.trans hsep
    calc n + 1 ≤ countMarks 0 high + 1 := Nat.succ_le_succ ih
      _ = countMarks 0 (sep ++ high) := by rw [hmark, countMarks_mark]
      _ = countMarks low.length (low ++ (sep ++ high)) := (countMarks_append low _).symm
      _ ≤ countMarks 0 (low ++ (sep ++ high)) := (countMarks_skip _ (Nat.zero_le _)).1

/-! Marks in the upper case of a text stand where the text has them. -/

theorem upperChar_mark {c m : Char} (hm : m ∈ andMark) (h : m ∈ upperChar c) :
    upperChar c = [m] ∧ c.toUpper = m ∨ upperChar c = ['\u02bc', 'N'] ∨ upperChar c = ['A', '\u02be'] := by
  have hblock : ∀ m ∈ andMark, 0 < m.toNat ∧ m.toNat < 0x80 := forall_mem_of_all (by decide)
  have hall : ∀ n ∈ List.range 0x80 ++ upperSources, ∀ m ∈ andMark, m ∈ upperChar (Char.ofNat n) →
      upperChar (Char.ofNat n) = [m] ∧ (Char.ofNat n).toUpper = m ∨
        upperChar (Char.ofNat n) = ['\u02bc', 'N'] ∨ upperChar (Char.ofNat n) = ['A', '\u02be'] :=
    forall_mem_mem_of_all (by decide +kernel)
  exact of_mem_upperChar (p := fun c => ∀ m ∈ andMark, m ∈ upperChar c →
    upperChar c = [m] ∧ c.toUpper = m ∨ upperChar c = ['\u02bc', 'N'] ∨ upperChar c = ['A', '\u02be'])
    hall h (hblock m hm).1 (hblock m hm).2 m hm h

theorem upperChars_eq_space {cs before after : List Char} (h : upperChars cs = before ++ ' ' :: after) :
    ∃ low high, cs = low ++ ' ' :: high ∧ upperChars low = before ∧ upperChars high = after := by
  induction cs generalizing before with
  | nil => exact absurd h.symm (by simp [upperChars])
  | cons c cs ih =>
    rw [upperChars_cons] at h
    rcases List.append_eq_append_iff.mp h with ⟨more, hbefore, hcs⟩ | ⟨more, hc, hcs⟩
    · obtain ⟨low, high, rfl, hlow, hhigh⟩ := ih hcs
      exact ⟨c :: low, high, rfl, by rw [upperChars_cons, hlow, hbefore], hhigh⟩
    · cases more with
      | nil =>
        obtain ⟨low, high, rfl, hlow, hhigh⟩ := ih (show upperChars cs = [] ++ ' ' :: after from hcs.symm)
        exact ⟨c :: low, high, rfl, by rw [upperChars_cons, hlow, hc, List.append_nil, List.append_nil], hhigh⟩
      | cons d more =>
        obtain ⟨rfl, rfl⟩ := List.cons.inj hcs
        have hmem : ' ' ∈ upperChar c := by simp [hc]
        rcases upperChar_mark (by decide) hmem with ⟨hspace, hupper⟩ | hother | hother
        · obtain ⟨rfl, hnone⟩ := List.append_eq_singleton_iff.mp (hc.symm.trans hspace) |>.resolve_right
            (fun hlast => absurd hlast.2 (by simp))
          obtain rfl := (List.cons.inj hnone).2
          have hc : c = ' ' := by
            rcases eq_of_toUpper_eq (by decide) hupper with hc | hc <;> exact hc
          exact ⟨[], cs, by rw [hc, List.nil_append], rfl, rfl⟩
        · rw [hother] at hmem
          exact absurd hmem (by decide)
        · rw [hother] at hmem
          exact absurd hmem (by decide)

/-- The letters of a mark come from letters one by one, since the two characters that are written out with
one of them have no other of them beside it. -/
theorem upperChars_eq_mark {mark cs after : List Char} (hmark : ∀ m ∈ mark, m ∈ andMark)
    (h : upperChars cs = mark ++ ' ' :: after) :
    ∃ sep high, cs = sep ++ ' ' :: high ∧ sep.map Char.toUpper = mark ∧ upperChars high = after := by
  induction mark generalizing cs with
  | nil =>
    obtain ⟨low, high, rfl, hlow, hhigh⟩ := upperChars_eq_space h
    cases low with
    | nil => exact ⟨[], high, rfl, rfl, hhigh⟩
    | cons c low => exact absurd hlow (upperChars_ne_nil (List.cons_ne_nil c low))
  | cons m mark ih =>
    obtain ⟨hm, hrest⟩ := List.forall_mem_cons.mp hmark
    cases cs with
    | nil => cases h
    | cons c cs =>
      rw [upperChars_cons] at h
      obtain ⟨d, more, hupper⟩ := List.exists_cons_of_ne_nil (upperChar_ne_nil c)
      rw [hupper, List.cons_append, List.cons_append] at h
      obtain ⟨rfl, htail⟩ := List.cons.inj h
      have hmem : d ∈ upperChar c := by simp [hupper]
      rcases upperChar_mark hm hmem with ⟨hone, hcase⟩ | hother | hother
      · obtain rfl := (List.cons.inj (hupper.symm.trans hone)).2
        obtain ⟨sep, high, rfl, hsep, hhigh⟩ := ih hrest htail
        exact ⟨c :: sep, high, rfl, by rw [List.map_cons, hcase, hsep], hhigh⟩
      · obtain rfl := (List.cons.inj (hupper.symm.trans hother)).1
        exact absurd hm (by decide)
      · obtain rfl := (List.cons.inj (hupper.symm.trans hother)).2
        have hnext : '\u02be' ∈ mark ++ [' '] := by
          cases mark with
          | nil => exact absurd (List.cons.inj htail).1 (by decide)
          | cons n mark => exact (List.cons.inj htail).1 ▸ List.mem_cons_self
        rcases List.mem_append.mp hnext with hnext | hnext
        · exact absurd (hrest _ hnext) (by decide)
        · exact absurd hnext (by decide)

theorem upperChars_mark {low sep high : List Char} (hsep : sep.map Char.toUpper = andMark) :
    upperChars (low ++ (sep ++ high)) = upperChars low ++ (andMark ++ upperChars high) := by
  rw [upperChars_append, upperChars_append, upperChars_of_map_toUpper (fun m hm => hm) hsep]

theorem hasMarks_upperChars_iff {n : Nat} {cs : List Char} :
    HasMarks id n (upperChars cs) ↔ HasMarks Char.toUpper n cs := by
  constructor
  · intro h
    generalize hupper : upperChars cs = us at h
    induction h generalizing cs with
    | none => exact .none cs
    | @next n before sep after hsep h ih =>
      have hmark : andMark = ' ' :: ("AND".toList ++ [' ']) := by decide
      rw [List.map_id] at hsep
      rw [hsep, hmark, List.cons_append, List.append_assoc] at hupper
      obtain ⟨low, rest, rfl, -, hrest⟩ := upperChars_eq_space hupper
      have hand : ∀ m ∈ "AND".toList, m ∈ andMark := forall_mem_of_all (by decide)
      obtain ⟨letters, high, rfl, hletters, hhigh⟩ := upperChars_eq_mark hand hrest
      have hwhole : (' ' :: (letters ++ [' '])).map Char.toUpper = andMark := by
        rw [List.map_cons, List.map_append, hletters]
        decide
      have hnext : HasMarks Char.toUpper (n + 1) (low ++ (' ' :: (letters ++ [' ']) ++ high)) :=
        .next hwhole (ih hhigh)
      simpa using hnext
  · intro h
    induction h with
    | none => exact .none _
    | next hsep h ih =>
      rw [upperChars_mark hsep]
      exact .next (List.map_id _) ih

theorem countMarks_eq_one_iff {cs : List Char} : countMarks 0 (upperChars cs) = 1 ↔ HasOneMark cs := by
  have hcount : ∀ n, n ≤ countMarks 0 (upperChars cs) ↔ HasMarks Char.toUpper n cs := fun n =>
    ⟨fun h => hasMarks_upperChars_iff.mp (countMarks_le h),
      fun h => (hasMarks_upperChars_iff.mpr h).le_countMarks⟩
  rw [HasOneMark, ← hcount, ← hcount]
  omega

end QueryGate
