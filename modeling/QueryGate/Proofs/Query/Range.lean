import Mathlib.Logic.ExistsUnique
import QueryGate.Proofs.Text.Spacing
import QueryGate.Proofs.Statement.Letter
import QueryGate.Proofs.Statement.Occurrence
import QueryGate.Query.Visual
/-! Ranges. The mark between the two ends of a range is looked for in the text in upper case, and the text
itself is cut there. So the ends are cut where they are written if the first has an upper case of its own
length, and too far to the right if its upper case is longer. -/

namespace QueryGate

/-! The one mark of a text. -/

theorem countMarks_of_none {cs : List Char} (h : ∀ i, ¬ andMark <+: cs.drop i) (skip : Nat) :
    countMarks skip cs = 0 := by
  induction cs generalizing skip with
  | nil => rfl
  | cons c cs ih =>
    have hrest : ∀ i, ¬ andMark <+: cs.drop i := fun i => h (i + 1)
    cases skip with
    | zero =>
      have hhere : ¬ andMark.isPrefixOf (c :: cs) = true := fun hmark =>
        h 0 (List.isPrefixOf_iff_prefix.mp hmark)
      rw [countMarks, if_neg hhere]
      exact ih hrest 0
    | succ k => exact ih hrest k

theorem countMarks_of_one {cs : List Char} {n : Nat} (hn : andMark <+: cs.drop n)
    (hone : ∀ i, andMark <+: cs.drop i → i = n) : countMarks 0 cs = 1 ∧ beforeMark cs = n := by
  induction cs generalizing n with
  | nil =>
    rw [List.drop_nil] at hn
    exact absurd (List.prefix_nil.mp hn) (by decide)
  | cons c cs ih =>
    cases n with
    | zero =>
      have hhere : andMark.isPrefixOf (c :: cs) = true := List.isPrefixOf_iff_prefix.mpr hn
      have hrest : ∀ i, ¬ andMark <+: cs.drop i := fun i h => Nat.succ_ne_zero i (hone (i + 1) h)
      rw [countMarks, beforeMark, if_pos hhere, if_pos hhere, countMarks_of_none hrest]
      exact ⟨rfl, rfl⟩
    | succ n =>
      have hhere : ¬ andMark.isPrefixOf (c :: cs) = true := fun hmark =>
        Nat.succ_ne_zero n (hone 0 (List.isPrefixOf_iff_prefix.mp hmark)).symm
      obtain ⟨hcount, hbefore⟩ := ih (n := n) hn fun i h => Nat.succ.inj (hone (i + 1) h)
      rw [countMarks, beforeMark, if_neg hhere, if_neg hhere, hcount, hbefore]
      exact ⟨rfl, rfl⟩

theorem existsUnique_mark {cs : List Char} {n : Nat} (hn : andMark.isPrefixOf (cs.drop n) = true)
    (hone : ∀ i < cs.length, andMark.isPrefixOf (cs.drop i) = true → i = n) :
    ∃! i, andMark <+: cs.drop i := by
  refine ⟨n, List.isPrefixOf_iff_prefix.mp hn, fun i hi => hone i ?_ (List.isPrefixOf_iff_prefix.mpr hi)⟩
  have hlength := hi.length_le
  rw [List.length_drop, show andMark.length = 5 from by decide] at hlength
  omega

/-! Upper case. -/

theorem length_le_upperChars (cs : List Char) : cs.length ≤ (upperChars cs).length := by
  induction cs with
  | nil => exact Nat.zero_le _
  | cons c cs ih =>
    have hc := List.length_pos_iff.mpr (upperChar_ne_nil c)
    rw [upperChars, List.flatMap_cons, List.length_append, List.length_cons]
    unfold upperChars at ih
    omega

theorem toUpper_of_beyond {c : Char} (hc : ¬ c.toNat < 128) : c.toUpper = c := by
  unfold Char.toUpper
  refine dif_neg fun hsmall => ?_
  have hle := UInt32.le_iff_toNat_le.mp hsmall.2
  have hz : ('z' : Char).val.toNat = 122 := rfl
  simp only [Char.toNat] at hc
  omega

theorem eq_of_toUpper_eq {c m : Char} (hm : m ∈ andMark) (h : c.toUpper = m) : c = m ∨ c = m.toLower := by
  by_cases hc : c.toNat < 128
  · have hall : ∀ m ∈ andMark, ∀ n < 128, (Char.ofNat n).toUpper = m →
        Char.ofNat n = m ∨ Char.ofNat n = m.toLower := forall_mem_of_all (by decide)
    have hn := hall m hm c.toNat hc
    rw [Char.ofNat_toNat] at hn
    exact hn h
  · exact Or.inl ((toUpper_of_beyond hc).symm.trans h)

theorem upperChar_of_toUpper {c m : Char} (hm : m ∈ andMark) (h : c.toUpper = m) : upperChar c = [m] := by
  have hall : ∀ m ∈ andMark, upperChar m = [m] ∧ upperChar m.toLower = [m] :=
    forall_mem_of_all (by decide)
  rcases eq_of_toUpper_eq hm h with rfl | rfl
  · exact (hall c hm).1
  · exact (hall m hm).2

theorem upperChars_of_map_toUpper {sep mark : List Char} (hmark : ∀ m ∈ mark, m ∈ andMark)
    (h : sep.map Char.toUpper = mark) : upperChars sep = mark := by
  induction sep generalizing mark with
  | nil => exact h
  | cons c sep ih =>
    subst h
    obtain ⟨hc, hrest⟩ := List.forall_mem_cons.mp hmark
    have hsep := ih hrest rfl
    rw [upperChars] at hsep ⊢
    rw [List.flatMap_cons, hsep, upperChar_of_toUpper hc rfl]
    rfl

/-! What the trimming of a value leaves. -/

/-- Characters that are not trimmed from a value. -/
def isInner (c : Char) : Bool :=
  !isBlank c && c ≠ '\'' && c ≠ '"'

theorem filter_trimOf {p q : Char → Bool} (h : ∀ c, p c = true → q c = false) (cs : List Char) :
    (trimOf p cs).filter q = cs.filter q := by
  have hnone : ∀ ds : List Char, (∀ c ∈ ds, p c = true) → ds.filter q = [] := fun ds hds =>
    List.filter_eq_nil_iff.mpr fun c hc => by simp [h c (hds c hc)]
  obtain ⟨closing, hend, hclosing, -⟩ := trimEndOf_eq_iff.mp (rfl : trimEndOf p (trimStartOf p cs) = trimOf p cs)
  have hstart := List.takeWhile_append_dropWhile (p := p) (l := cs)
  calc (trimOf p cs).filter q = (trimOf p cs ++ closing).filter q := by
        rw [List.filter_append, hnone closing hclosing, List.append_nil]
    _ = (cs.dropWhile p).filter q := congrArg (List.filter q) hend.symm
    _ = (cs.takeWhile p ++ cs.dropWhile p).filter q := by
        rw [List.filter_append, hnone _ (List.all_eq_true.mp List.all_takeWhile), List.nil_append]
    _ = cs.filter q := by rw [hstart]

theorem filter_filterValue (cs : List Char) : (filterValue cs).toList.filter isInner = cs.filter isInner := by
  rw [filterValue, String.toList_ofList, filter_trimOf (by simp [isInner]), filter_trimOf (by simp [isInner]),
    trimBlanks, filter_trimOf fun c hc => by simp [isInner, hc]]

theorem trimBlanks_concat {c : Char} (hc : isBlank c = true) (cs : List Char) :
    trimBlanks (cs ++ [c]) = trimBlanks cs := by
  have hend : ∀ ds, trimEndOf isBlank (ds ++ [c]) = trimEndOf isBlank ds := by
    intro ds
    obtain ⟨closing, hds, hclosing, htight⟩ := trimEndOf_eq_iff.mp (rfl : trimEndOf isBlank ds = trimEndOf isBlank ds)
    refine trimEndOf_eq_iff.mpr ⟨closing ++ [c], by rw [← List.append_assoc, ← hds], fun d hd => ?_, htight⟩
    rcases List.mem_append.mp hd with hd | hd
    · exact hclosing d hd
    · rw [List.mem_singleton.mp hd]
      exact hc
  rw [trimBlanks, trimOf, trimStartOf, List.dropWhile_append]
  by_cases hblank : (cs.dropWhile isBlank).isEmpty = true
  · rw [if_pos hblank, List.dropWhile_cons_of_pos hc, trimBlanks, trimOf, trimStartOf, List.isEmpty_iff.mp hblank]
    rfl
  · rw [if_neg hblank, hend]
    rfl

theorem filterValue_concat {c : Char} (hc : isBlank c = true) (cs : List Char) :
    filterValue (cs ++ [c]) = filterValue cs := by
  rw [filterValue, trimBlanks_concat hc, filterValue]

/-! The two ends of a range. -/

section

variable {low sep high : List Char}

theorem length_sep (hsep : sep.map Char.toUpper = andMark) : sep.length = andMark.length := by
  rw [← hsep, List.length_map]

/-- The mark begins with a space and goes on with a letter, that no trimming takes away. -/
theorem sep_split (hsep : sep.map Char.toUpper = andMark) :
    ∃ a more, sep = ' ' :: a :: more ∧ isInner a = true := by
  have hletters : andMark = [' ', 'A', 'N', 'D', ' '] := by decide
  rw [hletters] at hsep
  match sep with
  | [] => cases hsep
  | [c] => exact absurd (List.cons.inj hsep).2 (by simp)
  | c :: a :: more =>
    obtain ⟨hc, hrest⟩ := List.cons.inj hsep
    obtain ⟨ha, -⟩ := List.cons.inj hrest
    have hspace : c = ' ' := by
      rcases eq_of_toUpper_eq (by decide) hc with rfl | rfl <;> rfl
    refine ⟨a, more, by rw [hspace], ?_⟩
    rcases eq_of_toUpper_eq (by decide) ha with rfl | rfl <;> decide

/-- The text is cut behind as many characters as the upper case of the first end has. -/
theorem rangeValues_mark {k : Nat} (hk : (upperChars low).length = low.length + k)
    (hsep : sep.map Char.toUpper = andMark)
    (hone : ∃! i, andMark <+: (upperChars (low ++ (andMark ++ high))).drop i) :
    rangeValues (String.ofList (low ++ (sep ++ high))) =
      some (filterValue (low ++ (sep ++ high).take k), filterValue (high.drop k)) := by
  have hmark : upperChars andMark = andMark := by decide
  have hupper : ∀ mark, upperChars mark = andMark →
      upperChars (low ++ (mark ++ high)) = upperChars low ++ (andMark ++ upperChars high) := by
    intro mark h
    rw [← h]
    simp only [upperChars, List.flatMap_append]
  have hthis := hupper sep (upperChars_of_map_toUpper (fun m hm => hm) hsep)
  rw [hupper andMark hmark] at hone
  have hhere : andMark <+: (upperChars low ++ (andMark ++ upperChars high)).drop (upperChars low).length := by
    rw [List.drop_left]
    exact List.prefix_append _ _
  obtain ⟨hcount, hbefore⟩ := countMarks_of_one hhere fun i hi => hone.unique hi hhere
  have htake : (low ++ (sep ++ high)).take (low.length + k) = low ++ (sep ++ high).take k := by
    rw [List.take_length_add_append]
  have hdrop : (low ++ (sep ++ high)).drop (low.length + k + andMark.length) = high.drop k := by
    rw [Nat.add_assoc, Nat.add_comm k, List.drop_length_add_append, ← length_sep hsep,
      List.drop_length_add_append]
  rw [rangeValues]
  dsimp only
  rw [String.toList_ofList, hthis, hcount, if_neg (by simp), hbefore, hk, htake, hdrop]

/-- The ends are those that are written if the first has an upper case of its own length. If its upper case
is one character longer, they are still, as long as the second has nothing to lose. -/
theorem range_ends_iff {k : Nat} (hsep : sep.map Char.toUpper = andMark) :
    filterValue (low ++ (sep ++ high).take k) = filterValue low ∧ filterValue (high.drop k) = filterValue high ↔
      k = 0 ∨ k = 1 ∧ filterValue (high.drop 1) = filterValue high := by
  obtain ⟨a, more, rfl, ha⟩ := sep_split hsep
  match k with
  | 0 => simp
  | 1 =>
    have hlow : filterValue (low ++ ((' ' :: a :: more) ++ high).take 1) = filterValue low :=
      filterValue_concat (by decide) low
    rw [hlow]
    constructor
    · exact fun h => Or.inr ⟨rfl, h.2⟩
    · rintro (h | h)
      · cases h
      · exact ⟨rfl, h.2⟩
  | k + 2 =>
    have hne : filterValue (low ++ ((' ' :: a :: more) ++ high).take (k + 2)) ≠ filterValue low := by
      intro h
      have hinner := congrArg (fun value => value.toList.filter isInner) h
      simp only [filter_filterValue, List.filter_append] at hinner
      have hnone := List.append_cancel_left (hinner.trans (List.append_nil _).symm)
      have hkept : a ∈ (((' ' :: a :: more) ++ high).take (k + 2)).filter isInner :=
        List.mem_filter.mpr ⟨by simp, ha⟩
      rw [hnone] at hkept
      cases hkept
    constructor
    · rintro ⟨h, -⟩
      exact absurd h hne
    · rintro (h | ⟨h, -⟩) <;> omega

end

theorem plainPredicate_range {column written value low high : String}
    (h : rangeValues value = some (low, high)) :
    plainPredicate column "BETWEEN" written value = .ok (.between (.ofName column) low high) := by
  have hcompare : Comparison.ofText? "BETWEEN" = none := by decide
  have hpattern : Pattern.ofText? "BETWEEN" = none := by decide
  rw [plainPredicate]
  dsimp only
  rw [hcompare, hpattern, h]
  rfl

/-- A filter for a range, or for what is outside of it, whose value has one mark in upper case, is one from
and to the values that are cut out where the mark is in upper case. With as many characters as the upper
case of the first end is longer, they are the ends that are written just if there are none, or a single one
in whose place the second end has one that is trimmed anyway. -/
theorem FilterCondition.predicate_range {f : FilterCondition} {low sep high : List Char}
    (hvalue : f.value = some (String.ofList (low ++ (sep ++ high)))) (hsep : sep.map Char.toUpper = andMark)
    (hone : ∃! i, andMark <+: (upperChars (low ++ (andMark ++ high))).drop i) (column operator : String) :
    ∃ k, (upperChars low).length = low.length + k ∧ ∃ lowEnd highEnd,
      (singleSpaced (toUpperText operator) = "BETWEEN" →
        f.predicate column operator = .ok (.between (.ofName column) lowEnd highEnd)) ∧
      (singleSpaced (toUpperText operator) = "NOT BETWEEN" →
        f.predicate column operator = .ok (.negated (.between (.ofName column) lowEnd highEnd))) ∧
      lowEnd = filterValue (low ++ (sep ++ high).take k) ∧ highEnd = filterValue (high.drop k) ∧
      (lowEnd = filterValue low ∧ highEnd = filterValue high ↔
        k = 0 ∨ k = 1 ∧ filterValue (high.drop 1) = filterValue high) := by
  obtain ⟨k, hk⟩ := Nat.exists_eq_add_of_le (length_le_upperChars low)
  have hrange := rangeValues_mark hk hsep hone
  refine ⟨k, hk, _, _, fun hop => ?_, fun hop => ?_, rfl, rfl, range_ends_iff hsep⟩
  · have hplain : ¬ (notMark.isPrefixOf "BETWEEN".toList = true ∧ "BETWEEN" ≠ "NOT IN") := by decide
    rw [predicate, hop, if_neg hplain, hvalue, Option.getD_some]
    exact plainPredicate_range hrange
  · have hnot : notMark.isPrefixOf "NOT BETWEEN".toList = true ∧ "NOT BETWEEN" ≠ "NOT IN" := by decide
    have hrest : String.ofList ("NOT BETWEEN".toList.drop notMark.length) = "BETWEEN" := by decide
    rw [predicate, hop, if_pos hnot, hvalue, Option.getD_some, hrest, plainPredicate_range hrange]
    rfl

theorem FilterCondition.predicate_range_quoted :
    let f : FilterCondition := ⟨some "d", some " between ", some " '5' aNd \"9\" ", none⟩
    f.value = some (String.ofList (" '5'".toList ++ (" aNd ".toList ++ "\"9\" ".toList))) ∧
      " aNd ".toList.map Char.toUpper = andMark ∧
      (∃! i, andMark <+: (upperChars (" '5'".toList ++ (andMark ++ "\"9\" ".toList))).drop i) ∧
      f.predicate "d" " between " = .ok (.between (.named "d") "5" "9") := by
  intro f
  have hvalue : f.value = some (String.ofList (" '5'".toList ++ (" aNd ".toList ++ "\"9\" ".toList))) := by
    decide
  have hsep : " aNd ".toList.map Char.toUpper = andMark := by decide
  have hone : ∃! i, andMark <+: (upperChars (" '5'".toList ++ (andMark ++ "\"9\" ".toList))).drop i :=
    existsUnique_mark (n := 4) (by decide +kernel) (by decide +kernel)
  obtain ⟨k, hk, lowEnd, highEnd, hrange, -, -, -, hends⟩ := f.predicate_range hvalue hsep hone "d" " between "
  have hzero : k = 0 := by
    have hlength : (upperChars " '5'".toList).length = " '5'".toList.length := by decide +kernel
    omega
  obtain ⟨rfl, rfl⟩ := hends.mpr (Or.inl hzero)
  refine ⟨hvalue, hsep, hone, ?_⟩
  rw [hrange (by decide +kernel)]
  decide +kernel

/-- A letter with a longer upper case in the first end takes a character from the second. -/
theorem FilterCondition.predicate_range_shifted :
    let f : FilterCondition := ⟨some "d", some "BETWEEN", some "straße AND z", none⟩
    (∃! i, andMark <+: (upperChars ("straße".toList ++ (andMark ++ "z".toList))).drop i) ∧
      f.predicate "d" "BETWEEN" = .ok (.between (.named "d") "straße" "") ∧
      filterValue "straße".toList = "straße" ∧ filterValue "z".toList = "z" := by
  intro f
  exact ⟨existsUnique_mark (n := 7) (by decide +kernel) (by decide +kernel), by decide +kernel, by decide +kernel,
    by decide +kernel⟩

end QueryGate
