import Mathlib.Data.List.TakeWhile
import QueryGate.Proofs.Json.ReadBack
import QueryGate.Proofs.Number.DecimalShape
/-! Numbers in JSON text. An integer reads back as the same one, and every text of a floating-point number reads back
as a floating-point number, whatever ends the value behind it. -/

namespace QueryGate

/-- Behind a value a text ends, or an array or an object is continued or closed. -/
def EndsValue (rest : List Char) : Prop :=
  ∀ c ∈ rest.head?, c = ',' ∨ c = ']' ∨ c = '\x7d'

theorem endsValue_nil : EndsValue [] := by
  simp [EndsValue]

theorem endsValue_cons {c : Char} (h : c = ',' ∨ c = ']' ∨ c = '\x7d') (rest : List Char) : EndsValue (c :: rest) := by
  simpa [EndsValue] using h

/-! Numbers. -/

theorem takeWhile_digits {digits rest : List Char} (h : ∀ c ∈ digits, isAsciiDigit c = true)
    (hrest : ∀ c ∈ rest.head?, isAsciiDigit c = false) : (digits ++ rest).takeWhile isAsciiDigit = digits := by
  rw [List.takeWhile_append_of_pos h]
  cases rest with
  | nil => simp
  | cons c rest => rw [List.takeWhile_cons_of_neg (by simp [hrest c rfl]), List.append_nil]

theorem dropWhile_digits {digits rest : List Char} (h : ∀ c ∈ digits, isAsciiDigit c = true)
    (hrest : ∀ c ∈ rest.head?, isAsciiDigit c = false) : (digits ++ rest).dropWhile isAsciiDigit = rest := by
  rw [List.dropWhile_append_of_pos h]
  cases rest with
  | nil => rfl
  | cons c rest => exact List.dropWhile_cons_of_neg (by simp [hrest c rfl])

theorem EndsValue.noDigit {rest : List Char} (h : EndsValue rest) : ∀ c ∈ rest.head?, isAsciiDigit c = false := by
  intro c hc
  rcases h c hc with rfl | rfl | rfl <;> rfl

theorem readExponent_endsValue {rest : List Char} (h : EndsValue rest) : readExponent rest = (0, rest) := by
  cases rest with
  | nil => rfl
  | cons c rest => rcases h c rfl with rfl | rfl | rfl <;> rfl

theorem IsWhole.taken {whole rest : List Char} (h : IsWhole whole) (hrest : ∀ c ∈ rest.head?, isAsciiDigit c = false) :
    (match whole ++ rest with
      | '0' :: _ => ['0']
      | _ => (whole ++ rest).takeWhile isAsciiDigit) = whole := by
  obtain ⟨c, more, rfl⟩ := List.exists_cons_of_ne_nil h.nonempty
  split
  · rename_i hcons
    obtain ⟨rfl, -⟩ := List.cons.inj hcons
    exact (h.zero rfl).symm
  · exact takeWhile_digits h.digits hrest

theorem readJsonNumber_digits (negative : Bool) {n : Nat} (hn : n < tenTo maxIntegerDigits) {rest : List Char}
    (hrest : EndsValue rest) :
    readJsonNumber negative (Nat.toDigits 10 n ++ rest) = .ok (.int (if negative then -(n : Int) else n), rest) := by
  have hlength : ¬ maxIntegerDigits < (Nat.toDigits 10 n).length := Nat.not_lt.mpr (length_toDigits_le (by decide) hn)
  have hne : ¬ (Nat.toDigits 10 n).isEmpty = true := by
    simp
  have hpoint : ∀ more, rest ≠ '.' :: more := by
    rintro more rfl
    rcases hrest '.' rfl with h | h | h <;> cases h
  unfold readJsonNumber
  extract_lets whole afterWhole value
  have hwhole : whole = Nat.toDigits 10 n := (isWhole_toDigits n).taken hrest.noDigit
  have hafter : afterWhole = rest := by
    simp only [afterWhole, hwhole, List.drop_left]
  have hvalue : value = n := by
    simp only [value, hwhole, natOfDigits_toDigits]
  clear_value whole afterWhole value
  rw [hwhole, hafter, if_neg hne]
  split
  rename_i fraction behind hfraction
  split at hfraction
  · exact absurd rfl (hpoint _)
  · cases hfraction
    simp only [readExponent_endsValue hrest, List.isEmpty_nil, decide_true, Bool.and_self, if_true, if_neg hlength,
      hvalue]

theorem afterWord?_eq_none (front : List Char) {word : String} {rest : List Char} {w c : Char}
    (hword : word.toList = front ++ w :: rest) (hne : w ≠ c) (cs : List Char) :
    afterWord? word (front ++ c :: cs) = none := by
  have hprefix : ¬ word.toList.isPrefixOf (front ++ c :: cs) = true := by
    rw [List.isPrefixOf_iff_prefix, hword, List.prefix_append_right_inj, List.cons_prefix_cons]
    exact fun h => hne h.1
  rw [afterWord?, if_neg hprefix]

/-- No word starts like a number. -/
theorem readJsonWord_digit {c : Char} (hc : isAsciiDigit c = true) (cs : List Char) :
    readJsonWord (c :: cs) = none ∧ readJsonWord ('-' :: c :: cs) = none := by
  have hne : 'n' ≠ c ∧ 't' ≠ c ∧ 'f' ≠ c ∧ 'N' ≠ c ∧ 'I' ≠ c ∧ '-' ≠ c :=
    of_isAsciiDigit (p := fun c => 'n' ≠ c ∧ 't' ≠ c ∧ 'f' ≠ c ∧ 'N' ≠ c ∧ 'I' ≠ c ∧ '-' ≠ c) (by decide) hc
  obtain ⟨hnull, htrue, hfalse, hnan, hinfinity, hminus⟩ := hne
  have hwords : ∀ {d : Char}, 'n' ≠ d → 't' ≠ d → 'f' ≠ d → 'N' ≠ d → 'I' ≠ d → ∀ more : List Char,
      afterWord? "-Infinity" (d :: more) = none → readJsonWord (d :: more) = none := by
    intro d hnull htrue hfalse hnan hinfinity more hlast
    have hnone : ∀ {word : String} {w : Char} {ws : List Char}, word.toList = w :: ws → w ≠ d →
        afterWord? word (d :: more) = none := fun hword hne => afterWord?_eq_none [] hword hne more
    rw [readJsonWord, hnone rfl hnull, hnone rfl htrue, hnone rfl hfalse, hnone rfl hnan, hnone rfl hinfinity, hlast]
    rfl
  refine ⟨hwords hnull htrue hfalse hnan hinfinity cs ?_, hwords ?_ ?_ ?_ ?_ ?_ (c :: cs) ?_⟩
  · exact afterWord?_eq_none [] rfl hminus cs
  · decide
  · decide
  · decide
  · decide
  · decide
  · exact afterWord?_eq_none ['-'] rfl hinfinity cs

theorem readJsonValue_digit (fuel room : Nat) {c : Char} (hc : isAsciiDigit c = true) (cs : List Char) :
    readJsonValue (fuel + 1) room (c :: cs) = readJsonNumber false (c :: cs) := by
  have hne : c ≠ '"' ∧ c ≠ '[' ∧ c ≠ '\x7b' ∧ c ≠ '-' :=
    of_isAsciiDigit (p := fun c => c ≠ '"' ∧ c ≠ '[' ∧ c ≠ '\x7b' ∧ c ≠ '-') (by decide) hc
  simp [readJsonValue, hne, (readJsonWord_digit hc cs).1]

theorem readJsonValue_minus (fuel room : Nat) {c : Char} (hc : isAsciiDigit c = true) (cs : List Char) :
    readJsonValue (fuel + 1) room ('-' :: c :: cs) = readJsonNumber true (c :: cs) := by
  simp [readJsonValue, (readJsonWord_digit hc cs).2]

theorem readJsonValue_int (fuel room : Nat) {n : Int} (hn : n.natAbs < tenTo maxIntegerDigits) {rest : List Char}
    (hrest : EndsValue rest) : readJsonValue (fuel + 1) room ((intText n).toList ++ rest) = .ok (.int n, rest) := by
  obtain ⟨c, more, hhead, -⟩ := toDigits_head n.natAbs
  have hc : isAsciiDigit c = true := isAsciiDigit_of_mem_toDigits (hhead ▸ List.mem_cons_self)
  have hread := fun negative => readJsonNumber_digits negative hn hrest
  rw [hhead, List.cons_append] at hread
  rw [toList_intText, hhead, List.append_assoc, List.cons_append]
  by_cases hsign : n < 0
  · rw [signChars, if_pos (decide_eq_true hsign), List.singleton_append, readJsonValue_minus _ _ hc, hread, if_pos rfl,
      Int.ofNat_natAbs_of_nonpos (Int.le_of_lt hsign), Int.neg_neg]
  · rw [signChars, if_neg (by simp [hsign]), List.nil_append, readJsonValue_digit _ _ hc, hread, if_neg (by decide),
      Int.natAbs_of_nonneg (Int.not_lt.mp hsign)]

/-! Floating-point numbers. -/

theorem readExponent_exponent {exponent : List Char} (h : exponent = [] ∨ IsExponent exponent) :
    ∃ e, ∀ rest, EndsValue rest → readExponent (exponent ++ rest) = (e, rest) := by
  rcases h with rfl | ⟨sign, hsign, digits, hdigits, hne, rfl⟩
  · exact ⟨0, fun rest hrest => readExponent_endsValue hrest⟩
  · have htaken := fun rest (hrest : EndsValue rest) => takeWhile_digits hdigits hrest.noDigit
    have hleft := fun rest (hrest : EndsValue rest) => dropWhile_digits hdigits hrest.noDigit
    simp only [List.mem_cons, List.not_mem_nil, or_false] at hsign
    rcases hsign with rfl | rfl
    · exact ⟨-1 * natOfDigits digits, fun rest hrest => by simp [readExponent, htaken rest hrest, hleft rest hrest, hne]⟩
    · exact ⟨1 * natOfDigits digits, fun rest hrest => by simp [readExponent, htaken rest hrest, hleft rest hrest, hne]⟩

theorem noDigit_exponent {exponent rest : List Char} (h : exponent = [] ∨ IsExponent exponent) (hrest : EndsValue rest) :
    ∀ c ∈ (exponent ++ rest).head?, isAsciiDigit c = false := by
  rcases h with rfl | ⟨sign, -, digits, -, -, rfl⟩
  · exact hrest.noDigit
  · rintro c ⟨⟩
    rfl

theorem noDigit_fraction {fraction rest : List Char} (h : fraction = [] ∨ IsFraction fraction)
    (hrest : ∀ c ∈ rest.head?, isAsciiDigit c = false) : ∀ c ∈ (fraction ++ rest).head?, isAsciiDigit c = false := by
  rcases h with rfl | ⟨digits, -, -, rfl⟩
  · exact hrest
  · rintro c ⟨⟩
    rfl

/-- Digits with a fraction or none and an exponent or none behind them, but not none of both. -/
theorem readJsonNumber_parts (negative : Bool) {whole fraction exponent : List Char} (hwhole : IsWhole whole)
    (hfraction : fraction = [] ∨ IsFraction fraction) (hexponent : exponent = [] ∨ IsExponent exponent)
    (hsome : fraction ≠ [] ∨ exponent ≠ []) :
    ∃ y, ∀ rest, EndsValue rest →
      readJsonNumber negative (whole ++ (fraction ++ (exponent ++ rest))) = .ok (.float y, rest) := by
  obtain ⟨e, hread⟩ := readExponent_exponent hexponent
  let x := (DecimalText.mk whole fraction.tail e).toFloat
  refine ⟨if negative then -x else x, fun rest hrest => ?_⟩
  have hbehind := noDigit_exponent hexponent hrest
  have hnone : ¬ whole.isEmpty = true := by simp [hwhole.nonempty]
  have hpoint : ∀ more, exponent ++ rest ≠ '.' :: more := by
    intro more h
    rcases hexponent with rfl | ⟨sign, -, digits, -, -, rfl⟩
    · rcases hrest '.' (by simp only [List.nil_append] at h; simp [h]) with h | h | h <;> cases h
    · cases h
  have hnumber : ¬ (fraction.tail.isEmpty && rest.length = (exponent ++ rest).length) = true := by
    rcases hfraction with rfl | ⟨digits, -, hne, rfl⟩
    · have hlength : 0 < exponent.length := List.length_pos_iff.mpr (hsome.resolve_left (fun h => h rfl))
      simp only [Bool.and_eq_true, decide_eq_true_eq, List.length_append]
      omega
    · simp [hne]
  unfold readJsonNumber
  extract_lets found afterWhole value
  have hfound : found = whole := hwhole.taken (noDigit_fraction hfraction hbehind)
  have hafter : afterWhole = fraction ++ (exponent ++ rest) := by
    simp only [afterWhole, hfound, List.drop_left]
  clear_value found afterWhole value
  rw [hfound, hafter, if_neg hnone]
  split
  rename_i digits behind hmatch
  have hparts : digits = fraction.tail ∧ behind = exponent ++ rest := by
    rcases hfraction with rfl | ⟨digits', hdigits, hne, rfl⟩
    · split at hmatch
      · next heq => exact absurd heq (hpoint _)
      · cases hmatch
        exact ⟨rfl, rfl⟩
    · rw [List.cons_append] at hmatch
      simp only [takeWhile_digits hdigits hbehind, dropWhile_digits hdigits hbehind] at hmatch
      rw [if_neg (by simp [hne])] at hmatch
      cases hmatch
      exact ⟨rfl, rfl⟩
  obtain ⟨rfl, rfl⟩ := hparts
  simp only [hread rest hrest]
  rw [if_neg hnumber]

theorem readJsonNumber_decimal (negative : Bool) {cs : List Char} (h : IsDecimal cs) :
    ∃ y, ∀ rest, EndsValue rest → readJsonNumber negative (cs ++ rest) = .ok (.float y, rest) := by
  cases h with
  | pointed hwhole hfraction =>
    obtain ⟨digits, -, -, hcons⟩ := id hfraction
    obtain ⟨y, hread⟩ := readJsonNumber_parts negative hwhole (.inr hfraction) (.inl rfl) (.inl (by simp [hcons]))
    exact ⟨y, fun rest hrest => by simpa using hread rest hrest⟩
  | scaled hwhole hexponent =>
    obtain ⟨sign, -, digits, -, -, hcons⟩ := id hexponent
    obtain ⟨y, hread⟩ := readJsonNumber_parts negative hwhole (.inl rfl) (.inr hexponent) (.inr (by simp [hcons]))
    exact ⟨y, fun rest hrest => by simpa using hread rest hrest⟩
  | both hwhole hfraction hexponent =>
    obtain ⟨digits, -, -, hcons⟩ := id hfraction
    obtain ⟨y, hread⟩ := readJsonNumber_parts negative hwhole (.inr hfraction) (.inr hexponent) (.inl (by simp [hcons]))
    exact ⟨y, fun rest hrest => by simpa using hread rest hrest⟩

theorem IsDecimal.head {cs : List Char} (h : IsDecimal cs) : ∃ c rest, cs = c :: rest ∧ isAsciiDigit c = true := by
  have hfirst : ∀ {whole : List Char}, IsWhole whole → ∀ behind, ∃ c rest, whole ++ behind = c :: rest ∧
      isAsciiDigit c = true := by
    intro whole hwhole behind
    obtain ⟨c, rest, rfl⟩ := List.exists_cons_of_ne_nil hwhole.nonempty
    exact ⟨c, rest ++ behind, rfl, hwhole.digits c List.mem_cons_self⟩
  cases h with
  | pointed hwhole => exact hfirst hwhole _
  | scaled hwhole => exact hfirst hwhole _
  | both hwhole => exact hfirst hwhole _

theorem readJsonValue_decimal (negative : Bool) {cs : List Char} (h : IsDecimal cs) :
    ∃ y, ∀ fuel room rest, EndsValue rest →
      readJsonValue (fuel + 1) room (signChars negative ++ cs ++ rest) = .ok (.float y, rest) := by
  obtain ⟨y, hread⟩ := readJsonNumber_decimal negative h
  obtain ⟨c, more, rfl, hc⟩ := h.head
  refine ⟨y, fun fuel room rest hrest => ?_⟩
  rw [← hread rest hrest]
  cases negative with
  | false => exact readJsonValue_digit fuel room hc (more ++ rest)
  | true => exact readJsonValue_minus fuel room hc (more ++ rest)

theorem readJsonValue_floatText (x : Float) :
    ∃ y, ∀ fuel room rest, EndsValue rest →
      readJsonValue (fuel + 1) room ((FloatLayout.json.text x).toList ++ rest) = .ok (.float y, rest) := by
  have hform := FloatLayout.json.textForm x
  generalize (FloatLayout.json.text x).toList = cs at hform ⊢
  cases hform with
  | nan => exact ⟨_, fun _ _ _ _ => rfl⟩
  | infinite negative =>
    cases negative with
    | false => exact ⟨_, fun _ _ _ _ => rfl⟩
    | true => exact ⟨_, fun _ _ _ _ => rfl⟩
  | decimal negative h => exact readJsonValue_decimal negative h

/-- The floating-point number that is read from the text of one. -/
def rereadFloat (x : Float) : Float :=
  match readJsonValue 1 0 (FloatLayout.json.text x).toList with
  | .ok (.float y, _) => y
  | _ => x

theorem readJsonValue_float (fuel room : Nat) (x : Float) {rest : List Char} (hrest : EndsValue rest) :
    readJsonValue (fuel + 1) room ((FloatLayout.json.text x).toList ++ rest) = .ok (.float (rereadFloat x), rest) := by
  obtain ⟨y, hread⟩ := readJsonValue_floatText x
  have hself := hread 0 0 [] endsValue_nil
  rw [List.append_nil] at hself
  rw [hread fuel room rest hrest, rereadFloat, hself]

end QueryGate
