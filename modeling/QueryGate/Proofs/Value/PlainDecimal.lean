import Mathlib.Algebra.Field.Rat
import Mathlib.Algebra.Order.Field.Basic
import Mathlib.Data.List.TakeWhile
import QueryGate.Proofs.Number.Digits
/-! Plain texts of decimals. Whatever the exponent, the digits are written out with zeros in the place of it, so that
the text has digits, a sign and a point only and reads back as the same number. -/

namespace QueryGate

/-- Digits behind a point, if there are any. -/
def behindPoint (fraction : List Char) : List Char :=
  if fraction = [] then [] else '.' :: fraction

/-- Digits before and behind the point, with the number that they are in units of the last place. -/
structure PlainDigits (whole fraction : List Char) (number : Nat) : Prop where
  whole_ne_nil : whole ≠ []
  digits : ∀ c ∈ whole ++ fraction, isAsciiDigit c = true
  value : natOfDigits (whole ++ fraction) = number

theorem plainDigits_of_nonneg (digits : Nat) {exponent : Int} (h : 0 ≤ exponent) :
    ∃ whole, PlainDigits whole [] (digits * tenTo exponent.toNat) ∧
      plainDigits digits exponent = whole ++ behindPoint [] := by
  refine ⟨Nat.toDigits 10 (digits * tenTo exponent.toNat), ⟨Nat.toDigits_ne_nil, ?_, ?_⟩, ?_⟩
  · intro c hc
    rw [List.append_nil] at hc
    exact isAsciiDigit_of_mem_toDigits hc
  · rw [List.append_nil, natOfDigits_toDigits]
  · rw [plainDigits, if_pos h, behindPoint, if_pos rfl, List.append_nil]

/-- So many zeros stand before the digits that the point has a digit before it. -/
theorem plainDigits_of_neg (digits : Nat) {exponent : Int} (h : exponent < 0) :
    ∃ whole fraction, PlainDigits whole fraction digits ∧ (fraction.length : Int) = -exponent ∧
      plainDigits digits exponent = whole ++ behindPoint fraction := by
  let padded := zeros ((-exponent).toNat + 1 - (Nat.toDigits 10 digits).length) ++ Nat.toDigits 10 digits
  let point := padded.length - (-exponent).toNat
  have hlength : (-exponent).toNat < padded.length := by
    simp only [padded, zeros, List.length_append, List.length_replicate]
    omega
  have hfraction : (padded.drop point).length = (-exponent).toNat := by
    rw [List.length_drop]
    omega
  have hsplit : padded.take point ++ padded.drop point = padded := List.take_append_drop point padded
  refine ⟨padded.take point, padded.drop point, ⟨?_, ?_, ?_⟩, by omega, ?_⟩
  · refine List.ne_nil_of_length_pos ?_
    rw [List.length_take]
    omega
  · rw [hsplit]
    intro c hc
    rcases List.mem_append.mp hc with hzero | hdigit
    · rw [List.eq_of_mem_replicate hzero]
      rfl
    · exact isAsciiDigit_of_mem_toDigits hdigit
  · rw [hsplit]
    exact natOfDigits_zeros _ digits
  · have hne : padded.drop point ≠ [] := List.ne_nil_of_length_pos (by omega)
    rw [plainDigits, if_neg (Int.not_le.mpr h), behindPoint, if_neg hne]

/-! Reading a plain text. -/

theorem lowerChars_number {cs : List Char} (h : ∀ c ∈ cs, isPlainNumberChar c = true) : lowerChars cs = cs := by
  have hlower : ∀ c ∈ cs, c.toNat < 0x80 ∧ c.toLower = c := fun c hc =>
    of_isPlainNumberChar (p := fun c => c.toNat < 0x80 ∧ c.toLower = c) (by decide) (by decide) (by decide) (h c hc)
  clear h
  have hfrom : ∀ before : List Char, lowerFrom before cs = cs := by
    induction cs with
    | nil => exact fun _ => rfl
    | cons c cs ih =>
      intro before
      obtain ⟨hsize, hsame⟩ := hlower c List.mem_cons_self
      rw [lowerFrom, lowerCharAt, if_pos hsize, hsame, ih fun d hd => hlower d (List.mem_cons_of_mem c hd)]
      rfl
  exact hfrom []

namespace PlainDigits

variable {whole fraction : List Char} {number : Nat}

theorem isPlainNumberChar_of_mem (h : PlainDigits whole fraction number) {c : Char}
    (hc : c ∈ whole ++ behindPoint fraction) : isPlainNumberChar c = true := by
  unfold behindPoint at hc
  by_cases hempty : fraction = []
  · have hdigit := h.digits c (by simpa [hempty] using hc)
    simp [isPlainNumberChar, hdigit]
  · simp only [if_neg hempty, List.mem_append, List.mem_cons] at hc
    rcases hc with hwhole | rfl | hfraction
    · simp [isPlainNumberChar, h.digits c (List.mem_append_left _ hwhole)]
    · rfl
    · simp [isPlainNumberChar, h.digits c (List.mem_append_right _ hfraction)]

theorem read_chars (h : PlainDigits whole fraction number) :
    DecimalText.read (whole ++ behindPoint fraction) = some (⟨whole, fraction, 0⟩, []) := by
  have hwhole : ∀ c ∈ whole, isAsciiDigit c = true := fun c hc => h.digits c (List.mem_append_left _ hc)
  have hfraction : ∀ c ∈ fraction, isAsciiDigit c = true := fun c hc => h.digits c (List.mem_append_right _ hc)
  have hne : whole.isEmpty = false := by simpa using h.whole_ne_nil
  unfold DecimalText.read behindPoint
  by_cases hempty : fraction = []
  · subst hempty
    have htake : whole.takeWhile isAsciiDigit = whole := List.takeWhile_eq_self_iff.mpr hwhole
    have hdrop : whole.dropWhile isAsciiDigit = [] := List.dropWhile_eq_nil_iff.mpr hwhole
    simp only [if_true, List.append_nil, htake, hdrop, hne, Bool.false_and, Bool.false_eq_true, if_false, readExponent]
  · have htake : (whole ++ '.' :: fraction).takeWhile isAsciiDigit = whole := by
      rw [List.takeWhile_append_of_pos hwhole, List.takeWhile_cons_of_neg (by decide), List.append_nil]
    have hdrop : (whole ++ '.' :: fraction).dropWhile isAsciiDigit = '.' :: fraction := by
      rw [List.dropWhile_append_of_pos hwhole, List.dropWhile_cons_of_neg (by decide)]
    have htakeRest : fraction.takeWhile isAsciiDigit = fraction := List.takeWhile_eq_self_iff.mpr hfraction
    have hdropRest : fraction.dropWhile isAsciiDigit = [] := List.dropWhile_eq_nil_iff.mpr hfraction
    simp only [if_neg hempty, htake, hdrop, htakeRest, hdropRest, hne, Bool.false_and, Bool.false_eq_true, if_false,
      readExponent]

theorem read_signed (h : PlainDigits whole fraction number) (negative : Bool) :
    Decimal.read (String.ofList (signChars negative ++ (whole ++ behindPoint fraction))) =
      some (.finite negative number (-fraction.length)) := by
  have hplain : ∀ c ∈ signChars negative ++ (whole ++ behindPoint fraction), isPlainNumberChar c = true := by
    intro c hc
    rcases List.mem_append.mp hc with hsign | hdigits
    · exact isPlainNumberChar_of_mem_signChars hsign
    · exact h.isPlainNumberChar_of_mem hdigits
  have hfilter : (signChars negative ++ (whole ++ behindPoint fraction)).filter (· ≠ '_') =
      signChars negative ++ (whole ++ behindPoint fraction) := by
    refine List.filter_eq_self.mpr fun c hc => decide_eq_true ?_
    exact of_isPlainNumberChar (p := (· ≠ '_')) (by decide) (by decide) (by decide) (hplain c hc)
  have hlower := lowerChars_number fun _ hc => h.isPlainNumberChar_of_mem hc
  have hread := h.read_chars
  obtain ⟨c, more, hwhole⟩ := List.exists_cons_of_ne_nil h.whole_ne_nil
  have hc : isAsciiDigit c = true := h.digits c (by simp [hwhole])
  obtain ⟨hminus, hplus, hi, hn, hs⟩ : c ≠ '-' ∧ c ≠ '+' ∧ 'i' ≠ c ∧ 'n' ≠ c ∧ 's' ≠ c :=
    of_isAsciiDigit (p := fun c => c ≠ '-' ∧ c ≠ '+' ∧ 'i' ≠ c ∧ 'n' ≠ c ∧ 's' ≠ c) (by decide) hc
  have hword : ∀ {word : String} {w : Char} {ws : List Char}, word.toList = w :: ws → w ≠ c →
      payloadAfter? word (whole ++ behindPoint fraction) = none := by
    intro word w ws hchars hne
    have hprefix : word.toList.isPrefixOf (whole ++ behindPoint fraction) = false := by
      rw [hchars, hwhole, List.cons_append, List.isPrefixOf_cons_cons, beq_eq_false_iff_ne.mpr hne, Bool.false_and]
    simp [payloadAfter?, hprefix]
  have hinfinite : ¬ (whole ++ behindPoint fraction = "inf".toList ∨
      whole ++ behindPoint fraction = "infinity".toList) := by
    simp [hwhole, hi.symm]
  unfold Decimal.read
  rw [String.toList_ofList, trimBlanks_number (by simp [hwhole]) hplain, hfilter]
  extract_lets cs
  split
  rename_i sign size heq
  have hsize : (negative, whole ++ behindPoint fraction) = (sign, size) := by
    cases negative with
    | true => exact heq
    | false =>
      have hcs : cs = c :: (more ++ behindPoint fraction) := by
        simp only [cs, hwhole]
        rfl
      rw [hcs] at heq
      rw [hwhole, List.cons_append]
      split at heq
      · rename_i hcons
        exact absurd (List.cons.inj hcons).1 hminus
      · rename_i hcons
        exact absurd (List.cons.inj hcons).1 hplus
      · exact heq
  cases hsize
  rw [hlower, if_neg hinfinite, hword rfl hn, hword rfl hs, hread]
  simp only [h.value, Int.zero_sub]

end PlainDigits

/-- The number is counted in units of the last place that is written. -/
theorem plainDigits_value (digits : Nat) (exponent : Int) : ∃ whole fraction number,
    PlainDigits whole fraction number ∧ plainDigits digits exponent = whole ++ behindPoint fraction ∧
      (number : ℚ) * 10 ^ (-(fraction.length : Int)) = digits * 10 ^ exponent := by
  by_cases h : 0 ≤ exponent
  · obtain ⟨whole, hplain, hchars⟩ := plainDigits_of_nonneg digits h
    refine ⟨whole, [], _, hplain, hchars, ?_⟩
    obtain ⟨e, rfl⟩ := Int.eq_ofNat_of_zero_le h
    simp [tenTo]
  · obtain ⟨whole, fraction, hplain, hlength, hchars⟩ := plainDigits_of_neg digits (Int.not_le.mp h)
    refine ⟨whole, fraction, digits, hplain, hchars, ?_⟩
    rw [hlength, Int.neg_neg]

/-- The text of a finite decimal has no exponent, and reads back as the same number with the same sign. -/
theorem Decimal.plain_readBack (negative : Bool) (digits : Nat) (exponent : Int) :
    (∀ c ∈ (Decimal.finite negative digits exponent).plain.toList, isPlainNumberChar c = true) ∧
      ∃ (number : Nat) (places : Nat),
        Decimal.read (Decimal.finite negative digits exponent).plain = some (.finite negative number (-places)) ∧
        (number : ℚ) * 10 ^ (-(places : Int)) = digits * 10 ^ exponent := by
  obtain ⟨whole, fraction, number, hplain, hchars, hvalue⟩ := plainDigits_value digits exponent
  have htext : (Decimal.finite negative digits exponent).plain =
      String.ofList (signChars negative ++ (whole ++ behindPoint fraction)) := by
    rw [Decimal.plain, Decimal.textBy, hchars]
  rw [htext]
  refine ⟨?_, number, fraction.length, hplain.read_signed negative, hvalue⟩
  intro c hc
  rw [String.toList_ofList] at hc
  rcases List.mem_append.mp hc with hsign | hdigits
  · exact isPlainNumberChar_of_mem_signChars hsign
  · exact hplain.isPlainNumberChar_of_mem hdigits

end QueryGate
