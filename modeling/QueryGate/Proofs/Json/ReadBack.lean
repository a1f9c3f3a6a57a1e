import QueryGate.Proofs.Text.Literal
/-! Written texts read back. A string reads back to its characters whichever of them are escaped, and so
does an object that is made of one string. -/

namespace QueryGate

theorem hexUnit?_hexUnitChars {n : Nat} (h : n < 0x10000) (rest : List Char) :
    hexUnit? (hexUnitChars n ++ rest) = some (n, rest) := by
  simp only [hexUnitChars, List.cons_append, List.nil_append, hexUnit?, hexValue_hexDigit_mod,
    Option.bind_eq_bind, Option.bind_some, Option.pure_def, Option.some.injEq, Prod.mk.injEq, and_true]
  omega

theorem readUnicodeEscape_single {n : Nat} (h : n < 0x10000) (hhigh : isHighSurrogate n = false)
    (hlow : isLowSurrogate n = false) {rest : List Char} (hrest : rest ≠ []) :
    readUnicodeEscape (hexUnitChars n ++ rest) = .ok (Char.ofNat n, rest) := by
  have hlength : ¬ (hexUnitChars n ++ rest).length ≤ 4 := by
    have := List.length_pos_iff.mpr hrest
    simp only [List.length_append, hexUnitChars, List.length_cons, List.length_nil]
    omega
  unfold readUnicodeEscape
  rw [if_neg hlength, hexUnit?_hexUnitChars h]
  simp only [hhigh, Bool.false_and, Bool.false_eq_true, if_false, charOfUnit, hlow, Bool.or_self]

theorem readUnicodeEscape_pair {high low : Nat} (hhigh : isHighSurrogate high = true)
    (hlow : isLowSurrogate low = true) {rest : List Char} (hrest : rest ≠ []) :
    readUnicodeEscape (hexUnitChars high ++ (unicodeEscapeChars low ++ rest)) =
      .ok (Char.ofNat (joinSurrogates high low), rest) := by
  have hhighsize : high < 0x10000 := by
    simp only [isHighSurrogate, Bool.and_eq_true, decide_eq_true_eq] at hhigh
    omega
  have hlowsize : low < 0x10000 := by
    simp only [isLowSurrogate, Bool.and_eq_true, decide_eq_true_eq] at hlow
    omega
  have hbehind : 6 < (unicodeEscapeChars low ++ rest).length := by
    have := List.length_pos_iff.mpr hrest
    simp only [List.length_append, unicodeEscapeChars, hexUnitChars, List.length_cons, List.length_nil]
    omega
  have hlength : ¬ (hexUnitChars high ++ (unicodeEscapeChars low ++ rest)).length ≤ 4 := by
    rw [List.length_append]
    omega
  unfold readUnicodeEscape
  rw [if_neg hlength, hexUnit?_hexUnitChars hhighsize]
  simp only [hhigh, hbehind, decide_true, Bool.and_self, if_true]
  rw [unicodeEscapeChars, List.cons_append, List.cons_append]
  simp only [hexUnit?_hexUnitChars hlowsize, hlow, if_true]

/-- No character is half of a pair, so that its units are read as they were written. -/
theorem readUnicodeEscape_escapedUnits (c : Char) {rest : List Char} (hrest : rest ≠ []) :
    ∃ units, escapedUnits c ++ rest = '\\' :: 'u' :: units ∧ readUnicodeEscape units = .ok (c, rest) := by
  have hvalid : c.toNat < 0xd800 ∨ 0xdfff < c.toNat ∧ c.toNat < 0x110000 := c.valid
  unfold escapedUnits
  by_cases hsize : c.toNat < 0x10000
  · have hhigh : isHighSurrogate c.toNat = false := by
      simp only [isHighSurrogate, Bool.and_eq_false_imp, decide_eq_true_eq, decide_eq_false_iff_not]
      omega
    have hlow : isLowSurrogate c.toNat = false := by
      simp only [isLowSurrogate, Bool.and_eq_false_imp, decide_eq_true_eq, decide_eq_false_iff_not]
      omega
    refine ⟨hexUnitChars c.toNat ++ rest, ?_, ?_⟩
    · simp only [if_pos hsize]
      rfl
    · rw [readUnicodeEscape_single hsize hhigh hlow hrest, Char.ofNat_toNat]
  · have hhigh : isHighSurrogate (0xd800 + (c.toNat - 0x10000) / 0x400) = true := by
      simp only [isHighSurrogate, Bool.and_eq_true, decide_eq_true_eq]
      omega
    have hlow : isLowSurrogate (0xdc00 + (c.toNat - 0x10000) % 0x400) = true := by
      simp only [isLowSurrogate, Bool.and_eq_true, decide_eq_true_eq]
      omega
    have hjoin : joinSurrogates (0xd800 + (c.toNat - 0x10000) / 0x400) (0xdc00 + (c.toNat - 0x10000) % 0x400) =
        c.toNat := by
      unfold joinSurrogates
      omega
    refine ⟨hexUnitChars (0xd800 + (c.toNat - 0x10000) / 0x400) ++
      (unicodeEscapeChars (0xdc00 + (c.toNat - 0x10000) % 0x400) ++ rest), ?_, ?_⟩
    · simp only [if_neg hsize, List.append_assoc]
      rfl
    · rw [readUnicodeEscape_pair hhigh hlow hrest, hjoin, Char.ofNat_toNat]

theorem escapedUnits_ne_nil (c : Char) : escapedUnits c ≠ [] := by
  unfold escapedUnits
  by_cases hsize : c.toNat < 0x10000
  · simp [hsize, unicodeEscapeChars]
  · simp [hsize, unicodeEscapeChars]

/-- How a character is written: after a backslash, by its number, or as it is. -/
inductive JsonCharForm (c : Char) : List Char → Prop
  | escaped {e : Char} (hread : simpleEscape? e = some c) : JsonCharForm c ['\\', e]
  | numbered : JsonCharForm c (escapedUnits c)
  | plain (hquote : c ≠ '"') (hslash : c ≠ '\\') (hprinted : 0x20 ≤ c.toNat) : JsonCharForm c [c]

theorem jsonCharForm (ascii : Bool) (c : Char) : JsonCharForm c (jsonCharChars ascii c) := by
  unfold jsonCharChars
  by_cases hquote : c = '"'
  · rw [if_pos hquote]
    exact .escaped (by rw [hquote]; rfl)
  by_cases hslash : c = '\\'
  · rw [if_neg hquote, if_pos hslash]
    exact .escaped (by rw [hslash]; rfl)
  rw [if_neg hquote, if_neg hslash]
  iterate 5
    split
    · next h => exact .escaped (by rw [h]; rfl)
  split
  · next h =>
    have hunits : escapedUnits c = unicodeEscapeChars c.toNat := if_pos (Nat.lt_trans h (by decide))
    exact hunits ▸ .numbered
  · next h =>
    split
    · exact .numbered
    · exact .plain hquote hslash (Nat.le_of_not_lt h)

theorem readJsonString_char (ascii : Bool) (opened fuel : Nat) (done : List Char) (c : Char) {rest : List Char}
    (hrest : rest ≠ []) : readJsonString opened (fuel + 1) done (jsonCharChars ascii c ++ rest) =
      readJsonString opened fuel (c :: done) rest := by
  have hform := jsonCharForm ascii c
  generalize jsonCharChars ascii c = chars at hform ⊢
  cases hform with
  | @escaped e hread =>
    have he : e ≠ 'u' := by
      rintro rfl
      cases hread
    simp [readJsonString, hread]
  | numbered =>
    obtain ⟨units, hunits, hread⟩ := readUnicodeEscape_escapedUnits c hrest
    simp [hunits, readJsonString, hread, bind, Except.bind]
  | plain hquote hslash hprinted =>
    rw [List.singleton_append, readJsonString.eq_def]
    simp only [hquote, hslash, if_false]
    rw [if_neg (by omega)]

theorem readJsonString_chars (ascii : Bool) (opened : Nat) {fuel : Nat} (done cs rest : List Char)
    (hfuel : cs.length < fuel) :
    readJsonString opened fuel done (cs.flatMap (jsonCharChars ascii) ++ '"' :: rest) =
      .ok (String.ofList (done.reverse ++ cs), rest) := by
  induction cs generalizing fuel done with
  | nil =>
    obtain ⟨fuel, rfl⟩ := Nat.exists_eq_succ_of_ne_zero (Nat.ne_of_gt hfuel)
    rw [List.append_nil]
    rfl
  | cons c cs ih =>
    obtain ⟨fuel, rfl⟩ := Nat.exists_eq_succ_of_ne_zero (Nat.ne_of_gt (Nat.zero_lt_of_lt hfuel))
    rw [List.flatMap_cons, List.append_assoc, readJsonString_char ascii opened fuel done c (by simp),
      ih (c :: done) (Nat.lt_of_succ_lt_succ hfuel), List.reverse_cons, List.append_assoc]
    rfl

theorem length_le_flatMap_jsonCharChars (ascii : Bool) (cs : List Char) :
    cs.length ≤ (cs.flatMap (jsonCharChars ascii)).length := by
  induction cs with
  | nil => exact Nat.zero_le _
  | cons c cs ih =>
    have hc : 0 < (jsonCharChars ascii c).length := by
      have hform := jsonCharForm ascii c
      generalize jsonCharChars ascii c = chars at hform ⊢
      cases hform with
      | escaped => exact Nat.zero_lt_succ _
      | numbered => exact List.length_pos_iff.mpr (escapedUnits_ne_nil c)
      | plain => exact Nat.zero_lt_succ _
    rw [List.flatMap_cons, List.length_append, List.length_cons]
    omega

theorem readJsonString_quoted (ascii : Bool) (s : String) (rest : List Char) :
    let body := s.toList.flatMap (jsonCharChars ascii) ++ '"' :: rest
    readJsonString ('"' :: body).length ('"' :: body).length [] body = .ok (s, rest) := by
  intro body
  have hlength : s.toList.length < ('"' :: body).length := by
    have := length_le_flatMap_jsonCharChars ascii s.toList
    simp only [body, List.length_cons, List.length_append]
    omega
  rw [readJsonString_chars ascii _ [] s.toList rest hlength]
  simp

theorem skipJsonBlanks_cons {c : Char} (h : isJsonBlank c = false) (rest : List Char) :
    skipJsonBlanks (c :: rest) = c :: rest := by
  simp [skipJsonBlanks, h]

end QueryGate
