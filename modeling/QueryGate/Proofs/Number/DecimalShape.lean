import QueryGate.Proofs.Number.Digits
/-! The texts of floating-point numbers: digits with a fraction or an exponent behind them. Their first digit is a
zero only if it stands alone in front of the point. -/

namespace QueryGate

/-- The digits in front of the point. -/
structure IsWhole (cs : List Char) : Prop where
  digits : ∀ c ∈ cs, isAsciiDigit c = true
  nonempty : cs ≠ []
  zero : cs.head? = some '0' → cs = ['0']

/-- A point with digits behind it, if there are any. -/
def IsFraction (cs : List Char) : Prop :=
  ∃ digits, (∀ c ∈ digits, isAsciiDigit c = true) ∧ digits ≠ [] ∧ cs = '.' :: digits

/-- A mark and a sign with digits behind them, if there are any. -/
def IsExponent (cs : List Char) : Prop :=
  ∃ sign ∈ ['-', '+'], ∃ digits, (∀ c ∈ digits, isAsciiDigit c = true) ∧ digits ≠ [] ∧ cs = 'e' :: sign :: digits

/-- Digits with a fraction, an exponent or both. -/
inductive IsDecimal : List Char → Prop
  | pointed {whole fraction : List Char} (hwhole : IsWhole whole) (hfraction : IsFraction fraction) :
    IsDecimal (whole ++ fraction)
  | scaled {whole exponent : List Char} (hwhole : IsWhole whole) (hexponent : IsExponent exponent) :
    IsDecimal (whole ++ exponent)
  | both {whole fraction exponent : List Char} (hwhole : IsWhole whole) (hfraction : IsFraction fraction)
    (hexponent : IsExponent exponent) : IsDecimal (whole ++ (fraction ++ exponent))

theorem isWhole_zero : IsWhole ['0'] :=
  ⟨List.forall_mem_singleton.mpr rfl, List.cons_ne_nil _ _, fun _ => rfl⟩

theorem isFraction_zero : IsFraction ['.', '0'] :=
  ⟨['0'], List.forall_mem_singleton.mpr rfl, List.cons_ne_nil _ _, rfl⟩

theorem isWhole_toDigits (n : Nat) : IsWhole (Nat.toDigits 10 n) := by
  refine ⟨fun _ => isAsciiDigit_of_mem_toDigits, Nat.toDigits_ne_nil, fun h => ?_⟩
  obtain ⟨c, rest, hhead, hzero⟩ := toDigits_head n
  rw [hhead] at h ⊢
  obtain rfl := Option.some.inj h
  obtain ⟨-, rfl⟩ := hzero rfl
  rfl

/-! No number is written with the digits of zero but zero itself. -/

theorem RoundingInterval.pick_pos {i : RoundingInterval} {k : Int} {n : Nat} (h : i.pick k = some n) : n ≠ 0 := by
  unfold pick at h
  dsimp only at h
  split at h
  · cases h
  · rename_i hunder _
    obtain rfl := Option.some.inj h
    simpa using (Bool.and_eq_true_iff.mp hunder).2
  · obtain rfl := Option.some.inj h
    exact Nat.succ_ne_zero _
  · rename_i hunder _
    have hpos : floorScaled i.middle i.unit k ≠ 0 := by simpa using (Bool.and_eq_true_iff.mp hunder).2
    split at h
    · exact Option.some.inj h ▸ hpos
    · exact Option.some.inj h ▸ Nat.succ_ne_zero _
    · split at h
      · exact Option.some.inj h ▸ hpos
      · exact Option.some.inj h ▸ Nat.succ_ne_zero _

theorem shortestFrom_pos {v : Binary} (hv : v.mantissa ≠ 0) (magnitude : Int) (count fuel : Nat) :
    (shortestFrom v magnitude count fuel).digits ≠ 0 := by
  induction fuel generalizing count with
  | zero => exact hv
  | succ fuel ih =>
    rw [shortestFrom]
    split
    · next hpick => exact RoundingInterval.pick_pos hpick
    · exact ih (count + 1)

theorem dropTrailingZeros_pos {n : Nat} (hn : n ≠ 0) (fuel : Nat) : (dropTrailingZeros n fuel).1 ≠ 0 := by
  induction fuel generalizing n with
  | zero => exact hn
  | succ fuel ih =>
    rw [dropTrailingZeros]
    split
    · exact ih (by omega)
    · exact hn

theorem mantissa_pos {x : Float} {negative : Bool} {v : Binary} (h : floatParts x = .finite negative v) :
    v.mantissa ≠ 0 := by
  unfold floatParts at h
  dsimp only at h
  split at h
  · split at h <;> cases h
  · split at h
    · split at h
      · cases h
      · next hfraction =>
        cases h
        exact hfraction
    · cases h
      have htwo : 0 < twoTo 52 := Nat.two_pow_pos 52
      simp only
      omega

/-! The two ways to place the point. -/

theorem isAsciiDigit_of_mem_zeros {n : Nat} {c : Char} (h : c ∈ zeros n) : isAsciiDigit c = true := by
  rw [List.eq_of_mem_replicate h]
  rfl

section Placing

variable {digits : List Char} (hdigits : ∀ c ∈ digits, isAsciiDigit c = true) (hne : digits ≠ [])
  (hzero : digits.head? ≠ some '0')

include hdigits hne hzero

theorem isDecimal_positionalChars (point : Int) : IsDecimal (positionalChars digits point) := by
  unfold positionalChars
  split
  · refine .pointed isWhole_zero ⟨_, ?_, List.append_ne_nil_of_right_ne_nil _ hne, rfl⟩
    exact fun c hc => (List.mem_append.mp hc).elim isAsciiDigit_of_mem_zeros (hdigits c)
  · split
    · refine .pointed ⟨?_, List.append_ne_nil_of_left_ne_nil hne _, ?_⟩ isFraction_zero
      · exact fun c hc => (List.mem_append.mp hc).elim (hdigits c) isAsciiDigit_of_mem_zeros
      · obtain ⟨c, rest, rfl⟩ := List.exists_cons_of_ne_nil hne
        exact fun h => absurd h hzero
    · have hpoint : 0 < point.toNat := by omega
      refine .pointed ⟨fun c hc => hdigits c (List.mem_of_mem_take hc), ?_, ?_⟩
        ⟨_, fun c hc => hdigits c (List.mem_of_mem_drop hc), ?_, rfl⟩
      · simp [hne]
        omega
      · rw [List.head?_take, if_neg (by omega)]
        exact fun h => absurd h hzero
      · rw [ne_eq, List.drop_eq_nil_iff]
        omega

theorem isDecimal_scientificChars (width : Nat) (e : Int) : IsDecimal (scientificChars width digits e) := by
  have hexponent : IsExponent (exponentChars width e) := by
    refine ⟨if e < 0 then '-' else '+', by split <;> decide, _, ?_, ?_, rfl⟩
    · exact fun c hc => (List.mem_append.mp hc).elim isAsciiDigit_of_mem_zeros isAsciiDigit_of_mem_toDigits
    · exact List.append_ne_nil_of_right_ne_nil _ Nat.toDigits_ne_nil
  match digits with
  | [] => exact absurd rfl hne
  | [d] => exact .scaled ⟨hdigits, hne, fun h => absurd h hzero⟩ hexponent
  | d :: c :: rest =>
    have hfirst : IsWhole [d] := ⟨by simpa using hdigits d List.mem_cons_self, by simp, fun h => absurd h hzero⟩
    exact .both hfirst ⟨c :: rest, fun x hx => hdigits x (List.mem_cons_of_mem d hx), by simp, rfl⟩ hexponent

end Placing

theorem FloatLayout.isDecimal_size (layout : FloatLayout) {v : Binary} (hv : v.mantissa ≠ 0) :
    IsDecimal (layout.size v) := by
  have hpos : (dropTrailingZeros v.shortest.digits 18).1 ≠ 0 := dropTrailingZeros_pos (shortestFrom_pos hv _ _ _) 18
  have hzero : (Nat.toDigits 10 (dropTrailingZeros v.shortest.digits 18).1).head? ≠ some '0' := by
    obtain ⟨c, rest, hhead, hnone⟩ := toDigits_head (dropTrailingZeros v.shortest.digits 18).1
    rw [hhead]
    rintro ⟨⟩
    exact hpos (hnone rfl).1
  unfold size
  dsimp only
  split
  · exact isDecimal_positionalChars (fun _ => isAsciiDigit_of_mem_toDigits) Nat.toDigits_ne_nil hzero _
  · exact isDecimal_scientificChars (fun _ => isAsciiDigit_of_mem_toDigits) Nat.toDigits_ne_nil hzero _ _

/-- What the text of a floating-point number is made of. -/
inductive FloatLayout.TextForm (layout : FloatLayout) : List Char → Prop
  | nan : layout.TextForm layout.nan.toList
  | infinite (negative : Bool) : layout.TextForm (signChars negative ++ layout.infinite.toList)
  | decimal (negative : Bool) {cs : List Char} (h : IsDecimal cs) : layout.TextForm (signChars negative ++ cs)

theorem FloatLayout.textForm (layout : FloatLayout) (x : Float) : layout.TextForm (layout.text x).toList := by
  have hsigned : ∀ (negative : Bool) (s : String),
      (if negative then "-" ++ s else s).toList = signChars negative ++ s.toList := by
    intro negative s
    cases negative <;> simp [signChars]
  unfold text
  dsimp only
  cases hparts : floatParts x with
  | nan => exact .nan
  | infinite negative =>
    dsimp only
    rw [hsigned]
    exact .infinite negative
  | zero negative =>
    dsimp only
    rw [hsigned]
    exact .decimal negative (.pointed isWhole_zero isFraction_zero)
  | finite negative v =>
    dsimp only
    rw [hsigned, String.toList_ofList]
    exact .decimal negative (layout.isDecimal_size (mantissa_pos hparts))

end QueryGate
