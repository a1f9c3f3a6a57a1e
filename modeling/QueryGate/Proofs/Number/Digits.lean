import QueryGate.Number.Integer
import QueryGate.Proofs.Json.Written
import QueryGate.Proofs.Text.Spacing
import QueryGate.Value.Decimal
/-! Whole numbers in decimal digits. The digits of a number read back to it, with zeros before them or none, and as
people type integers they do so up to the length that is read. -/

namespace QueryGate

/-! Digits. -/

theorem isAsciiDigit_of_mem_toDigits {n : Nat} {c : Char} (h : c ∈ Nat.toDigits 10 n) : isAsciiDigit c = true :=
  Nat.isDigit_of_mem_toDigits (by decide) (by decide) h

theorem natOfDigits_toDigits (n : Nat) : natOfDigits (Nat.toDigits 10 n) = n :=
  Nat.ofDigitChars_toDigits (by decide) (by decide)

theorem natOfDigits_zeros (k n : Nat) : natOfDigits (zeros k ++ Nat.toDigits 10 n) = n := by
  have hzeros : natOfDigits (zeros k) = 0 := Nat.ofDigitChars_replicate_zero (b := 10) (n := k)
  rw [natOfDigits, List.foldl_append]
  rw [natOfDigits] at hzeros
  rw [hzeros]
  exact natOfDigits_toDigits n

theorem length_toDigits_le {n k : Nat} (hk : 0 < k) (h : n < tenTo k) : (Nat.toDigits 10 n).length ≤ k :=
  (Nat.length_toDigits_le_iff (by decide) hk).mpr h

theorem toDigits_head (n : Nat) : ∃ c rest, Nat.toDigits 10 n = c :: rest ∧ (c = '0' → n = 0 ∧ rest = []) := by
  induction n using Nat.strongRecOn with
  | ind n ih =>
    by_cases hn : n < 10
    · refine ⟨n.digitChar, [], Nat.toDigits_of_lt_base hn, ?_⟩
      have hdigit : ∀ d < 10, Nat.digitChar d = '0' → d = 0 := by decide
      exact fun h => ⟨hdigit n hn h, rfl⟩
    · obtain ⟨c, rest, hfront, hzero⟩ := ih (n / 10) (by omega)
      rw [Nat.toDigits_of_base_le (by decide) (by omega), hfront]
      refine ⟨c, _, rfl, fun hc => ?_⟩
      obtain ⟨hnone, -⟩ := hzero hc
      omega

/-! The characters of numbers. -/

/-- The characters of a number without an exponent. -/
def isPlainNumberChar (c : Char) : Bool :=
  isAsciiDigit c || c = '-' || c = '.'

theorem exists_digitChar {c : Char} (h : isAsciiDigit c = true) : ∃ n < 10, Nat.digitChar n = c := by
  have hbounds : 48 ≤ c.toNat ∧ c.toNat ≤ 57 := by
    simpa [isAsciiDigit, Char.le_def, UInt32.le_iff_toNat_le] using h
  have hall : ∀ n < 10, Nat.digitChar n = Char.ofNat (48 + n) := by decide
  refine ⟨c.toNat - 48, by omega, ?_⟩
  rw [hall _ (by omega), Nat.add_sub_cancel' hbounds.1, Char.ofNat_toNat]

/-- What holds of the ten digits holds of every digit. -/
theorem of_isAsciiDigit {p : Char → Prop} (hdigits : ∀ n < 10, p (Nat.digitChar n)) {c : Char}
    (h : isAsciiDigit c = true) : p c := by
  obtain ⟨n, hn, rfl⟩ := exists_digitChar h
  exact hdigits n hn

theorem of_isPlainNumberChar {p : Char → Prop} (hdigits : ∀ n < 10, p (Nat.digitChar n)) (hminus : p '-')
    (hpoint : p '.') {c : Char} (h : isPlainNumberChar c = true) : p c := by
  simp only [isPlainNumberChar, Bool.or_eq_true, decide_eq_true_eq] at h
  rcases h with (hdigit | rfl) | rfl
  · exact of_isAsciiDigit hdigits hdigit
  · exact hminus
  · exact hpoint

theorem isPlainNumberChar_of_mem_signChars {negative : Bool} {c : Char} (h : c ∈ signChars negative) :
    isPlainNumberChar c = true := by
  cases negative with
  | false => cases h
  | true =>
    rw [List.mem_singleton.mp h]
    rfl

theorem trimBlanks_number {cs : List Char} (hne : cs ≠ []) (h : ∀ c ∈ cs, isPlainNumberChar c = true) :
    trimBlanks cs = cs := by
  have hblank : ∀ c ∈ cs, isBlank c = false := fun c hc =>
    of_isPlainNumberChar (p := fun c => isBlank c = false) (by decide) (by decide) (by decide) (h c hc)
  apply trimBlanks_eq_self
  · obtain ⟨c, rest, rfl⟩ := List.exists_cons_of_ne_nil hne
    simpa using hblank c List.mem_cons_self
  · have hlast := hblank _ (List.getLast_mem hne)
    simpa [EndsTight, List.getLast?_eq_some_getLast hne] using hlast

/-! Integers. -/

theorem toList_intText (n : Int) : (intText n).toList = signChars (n < 0) ++ Nat.toDigits 10 n.natAbs := by
  unfold intText signChars
  by_cases h : n < 0
  · simp [h, digitsText]
  · simp [h, digitsText]

theorem typedDigits?_cons {c : Char} (h : isAsciiDigit c = true) (after : Bool) (cs : List Char) :
    typedDigits? after (c :: cs) = (typedDigits? true cs).map (digitValue c :: ·) := by
  have hvalue : decimalValue? c = some (digitValue c) :=
    of_isAsciiDigit (p := fun c => decimalValue? c = some (digitValue c)) (by decide) h
  have hmark : c ≠ '_' := of_isAsciiDigit (p := (· ≠ '_')) (by decide) h
  rw [typedDigits?, hvalue]
  · cases typedDigits? true cs <;> rfl
  · simpa using hmark

theorem typedDigits?_digits {cs : List Char} (hne : cs ≠ []) (h : ∀ c ∈ cs, isAsciiDigit c = true) :
    typedDigits? false cs = some (cs.map digitValue) := by
  have hbehind : ∀ cs : List Char, (∀ c ∈ cs, isAsciiDigit c = true) → typedDigits? true cs = some (cs.map digitValue) := by
    intro cs h
    induction cs with
    | nil => rfl
    | cons c cs ih =>
      rw [typedDigits?_cons (h c List.mem_cons_self), ih fun d hd => h d (List.mem_cons_of_mem c hd)]
      rfl
  obtain ⟨c, rest, rfl⟩ := List.exists_cons_of_ne_nil hne
  rw [typedDigits?_cons (h c List.mem_cons_self), hbehind rest fun d hd => h d (List.mem_cons_of_mem c hd)]
  rfl

theorem foldl_digitValue (cs : List Char) : (cs.map digitValue).foldl (fun n d => n * 10 + d) 0 = natOfDigits cs := by
  rw [List.foldl_map, natOfDigits]
  simp only [Nat.mul_comm]

theorem isPlainNumberChar_of_mem_intText {n : Int} {c : Char} (h : c ∈ (intText n).toList) :
    isPlainNumberChar c = true := by
  rw [toList_intText, List.mem_append] at h
  rcases h with hsign | hdigit
  · exact isPlainNumberChar_of_mem_signChars hsign
  · simp [isPlainNumberChar, isAsciiDigit_of_mem_toDigits hdigit]

theorem readTypedInteger_intText {n : Int} (h : n.natAbs < tenTo maxShownDigits) :
    readTypedInteger (intText n) = some n := by
  have hdigits : ∀ c ∈ Nat.toDigits 10 n.natAbs, isAsciiDigit c = true := fun _ => isAsciiDigit_of_mem_toDigits
  have hlength : ¬ 4300 < (Nat.toDigits 10 n.natAbs).length := Nat.not_lt.mpr (length_toDigits_le (by decide) h)
  have hne : (intText n).toList ≠ [] := by
    rw [toList_intText]
    exact List.append_ne_nil_of_right_ne_nil _ Nat.toDigits_ne_nil
  have htyped := typedDigits?_digits Nat.toDigits_ne_nil hdigits
  have hvalue := (foldl_digitValue _).trans (natOfDigits_toDigits n.natAbs)
  rw [readTypedInteger, trimBlanks_number hne fun _ => isPlainNumberChar_of_mem_intText, toList_intText]
  obtain ⟨c, rest, hhead, -⟩ := toDigits_head n.natAbs
  rw [hhead] at hdigits hlength htyped hvalue ⊢
  have hsign : c ≠ '-' ∧ c ≠ '+' :=
    of_isAsciiDigit (p := fun c => c ≠ '-' ∧ c ≠ '+') (by decide) (hdigits c List.mem_cons_self)
  rw [← List.length_map (f := digitValue)] at hlength
  by_cases hn : n < 0
  · rw [signChars, if_pos (decide_eq_true hn)]
    simp only [List.singleton_append, htyped, Option.bind_eq_bind, Option.bind_some, if_neg hlength, hvalue, if_true]
    rw [Int.ofNat_natAbs_of_nonpos (Int.le_of_lt hn), Int.neg_neg]
    rfl
  · rw [signChars, if_neg (by simp [hn]), List.nil_append]
    split
    rename_i negative size heq
    split at heq
    · rename_i hcons
      exact absurd (List.cons.inj hcons).1 hsign.1
    · rename_i hcons
      exact absurd (List.cons.inj hcons).1 hsign.2
    · cases heq
      simp only [htyped, Option.bind_eq_bind, Option.bind_some, if_neg hlength, hvalue]
      rw [if_neg (by decide), Int.natAbs_of_nonneg (Int.not_lt.mp hn)]
      rfl

end QueryGate
