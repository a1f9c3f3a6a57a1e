import QueryGate.Statement.Denied
/-! Which characters spell a letter. A capital is spelled by itself and by its small letter, and three of
them by characters of other scripts too: I by both of its forms without and with a dot, K by the Kelvin
sign, and S by the long s. -/

namespace QueryGate

/-- What holds of each member of a list, the members being looked at one by one. -/
theorem forall_mem_of_all {α : Type} {p : α → Prop} [DecidablePred p] {l : List α}
    (h : l.all (fun a => decide (p a)) = true) : ∀ a ∈ l, p a := by
  simpa using h

theorem forall_mem_mem_of_all {α β : Type} {p : α → β → Prop} [∀ a b, Decidable (p a b)] {l : List α}
    {m : α → List β} (h : l.all (fun a => (m a).all fun b => decide (p a b)) = true) :
    ∀ a ∈ l, ∀ b ∈ m a, p a b := by
  simpa using h

theorem sameLetter_iff {a b : Char} : sameLetter a b = true ↔ foldChar a = foldChar b := by
  simp only [sameLetter, Bool.or_eq_true, decide_eq_true_eq]
  constructor
  · rintro (rfl | h)
    · rfl
    · exact h
  · exact Or.inr

def capitals : List Char :=
  "ABCDEFGHIJKLMNOPQRSTUVWXYZ".toList

/-- The characters that spell a capital. -/
def capitalForms (w : Char) : List Char :=
  w :: w.toLower :: (if w = 'I' then ['\u0130', '\u0131'] else if w = 'K' then ['\u212a']
    else if w = 'S' then ['\u017f'] else [])

theorem CaseRow.apply_cases (rows : List CaseRow) (n : Nat) :
    CaseRow.apply rows n = n ∨
      ∃ row ∈ rows, row.first ≤ n ∧ n ≤ row.last ∧ CaseRow.apply rows n = (n + row.shift).toNat := by
  induction rows with
  | nil => exact Or.inl rfl
  | cons row rest ih =>
    unfold CaseRow.apply
    by_cases hfirst : n < row.first
    · exact Or.inl (by rw [if_pos hfirst])
    · rw [if_neg hfirst]
      by_cases hrow : n ≤ row.last ∧ (n - row.first) % row.step = 0
      · rw [if_pos hrow]
        exact Or.inr ⟨row, List.mem_cons_self, by omega, hrow.1, rfl⟩
      · rw [if_neg hrow]
        rcases ih with h | ⟨other, hmem, hother⟩
        · exact Or.inl h
        · exact Or.inr ⟨other, List.mem_cons_of_mem _ hmem, hother⟩

theorem toNat_ofNat_cases (n : Nat) : (Char.ofNat n).toNat = n ∨ (Char.ofNat n).toNat = 0 := by
  unfold Char.ofNat
  by_cases h : n.isValidChar
  · rw [dif_pos h]
    exact Or.inl rfl
  · rw [dif_neg h]
    exact Or.inr rfl

/-- The code points whose small letter is the different code point `m`. -/
def capitalSources (m : Nat) : List Nat :=
  lowerRows.filterMap fun row =>
    let n := ((m : Int) - row.shift).toNat
    if row.first ≤ n ∧ n ≤ row.last ∧ ((n : Int) + row.shift).toNat = m then some n else none

theorem apply_lowerRows_cases {n m : Nat} (h : CaseRow.apply lowerRows n = m) (hm : 0 < m) :
    n = m ∨ n ∈ capitalSources m := by
  rcases CaseRow.apply_cases lowerRows n with hn | ⟨row, hrow, hfirst, hlast, hn⟩
  · exact Or.inl (hn.symm.trans h)
  · refine Or.inr (List.mem_filterMap.mpr ⟨row, hrow, ?_⟩)
    have hshift : ((n : Int) + row.shift).toNat = m := hn.symm.trans h
    have hback : ((m : Int) - row.shift).toNat = n := by omega
    simp only [hback]
    exact if_pos ⟨hfirst, hlast, hshift⟩

/-- The Kelvin sign is the one code point beyond the first block whose small letter is in it. -/
theorem eq_kelvin_of_mem_capitalSources {m n : Nat} (h : n ∈ capitalSources m) (hm : m < 0x80) (hn : ¬ n < 0x80) :
    n = 0x212a ∧ m = 0x6b := by
  have hrows : ∀ row ∈ lowerRows, row.last < 0x80 ∨ 0x80 ≤ row.first + row.shift ∨
      row.first = 0x212a ∧ row.last = 0x212a ∧ row.shift = -8383 := forall_mem_of_all (by decide +kernel)
  obtain ⟨row, hrow, hsource⟩ := List.mem_filterMap.mp h
  dsimp only at hsource
  split at hsource
  case isTrue hin =>
    cases hsource
    obtain hlast | hshift | ⟨hfirst, hlast, hshift⟩ := hrows row hrow <;> omega
  case isFalse => cases hsource

theorem lower_eq_cases {c t : Char} (ht : 0 < t.toNat)
    (h : Char.ofNat (CaseRow.apply lowerRows c.toNat) = t) : c = t ∨ c.toNat ∈ capitalSources t.toNat := by
  have hvalue : CaseRow.apply lowerRows c.toNat = t.toNat := by
    rcases toNat_ofNat_cases (CaseRow.apply lowerRows c.toNat) with hn | hn
    · rw [← hn, h]
    · rw [h] at hn
      omega
  rcases apply_lowerRows_cases hvalue ht with hc | hc
  · exact Or.inl (Char.toNat_inj.mp hc)
  · exact Or.inr hc

/-- The characters beyond the first block that are folded into it. -/
theorem foldChar_beyond_cases {c t : Char} (hc : ¬ c.toNat < 0x80) (hpos : 0 < t.toNat) (ht : t.toNat < 0x80)
    (h : foldChar c = t) :
    c.toNat ∈ capitalSources t.toNat ∨ (c, t) ∈ [('\u0130', 'i'), ('\u0131', 'i'), ('\u017f', 's')] := by
  have hvariants : ∀ v ∈ letterVariants, v.2.toNat < 0x80 →
      0 < v.1.toNat ∧ capitalSources v.1.toNat = [] ∧ v ∈ [('\u0131', 'i'), ('\u017f', 's')] :=
    forall_mem_of_all (by decide +kernel)
  unfold foldChar at h
  rw [if_neg hc] at h
  by_cases hdot : c = '\u0130'
  · rw [if_pos hdot] at h
    exact Or.inr (by simp [hdot, ← h])
  · rw [if_neg hdot] at h
    dsimp only at h
    cases hlookup : letterVariants.lookup (Char.ofNat (CaseRow.apply lowerRows c.toNat)) with
    | none =>
      rw [hlookup, Option.getD_none] at h
      rcases lower_eq_cases hpos h with rfl | hsource
      · exact absurd ht hc
      · exact Or.inl hsource
    | some v =>
      rw [hlookup, Option.getD_some] at h
      subst h
      obtain ⟨before, after, hsplit, -⟩ := List.lookup_eq_some_iff.mp hlookup
      have hmem : (Char.ofNat (CaseRow.apply lowerRows c.toNat), v) ∈ letterVariants := by
        rw [hsplit]
        simp
      obtain ⟨hlower, hnone, hform⟩ := hvariants _ hmem ht
      rcases lower_eq_cases hlower rfl with hcv | hsource
      · rw [show Char.ofNat (CaseRow.apply lowerRows c.toNat) = c from hcv.symm] at hform
        exact Or.inr (List.mem_cons_of_mem _ hform)
      · rw [hnone] at hsource
        cases hsource

theorem foldChar_beyond {w c : Char} (hw : w ∈ capitals) (hc : ¬ c.toNat < 0x80)
    (h : foldChar c = w.toLower) : c ∈ capitalForms w := by
  have hsmall : ∀ w ∈ capitals, 0 < w.toLower.toNat ∧ w.toLower.toNat < 0x80 :=
    forall_mem_of_all (by decide)
  have hkelvin : ∀ w ∈ capitals, w.toLower.toNat = 0x6b → '\u212a' ∈ capitalForms w :=
    forall_mem_of_all (by decide)
  have hforms : ∀ v ∈ [('\u0130', 'i'), ('\u0131', 'i'), ('\u017f', 's')], ∀ w ∈ capitals,
      v.2 = w.toLower → v.1 ∈ capitalForms w :=
    forall_mem_mem_of_all (by decide +kernel)
  obtain ⟨hpos, hfirst⟩ := hsmall w hw
  rcases foldChar_beyond_cases hc hpos hfirst h with hsource | hform
  · obtain ⟨hn, hm⟩ := eq_kelvin_of_mem_capitalSources hsource hfirst hc
    rw [show c = '\u212a' from Char.toNat_inj.mp hn]
    exact hkelvin w hw hm
  · exact hforms _ hform w hw rfl

theorem toLower_cases {c : Char} (hc : c.toNat < 0x80) : c.toLower = c ∨ c.toLower.toNat = c.toNat + 32 := by
  unfold Char.toLower
  split
  case isTrue =>
    refine Or.inr ?_
    change (c.val + ('a'.val - 'A'.val)).toNat = c.val.toNat + 32
    rw [UInt32.toNat_add, show ('a'.val - 'A'.val).toNat = 32 from by decide]
    change c.val.toNat < 0x80 at hc
    omega
  case isFalse => exact Or.inl rfl

theorem foldChar_first {w c : Char} (hw : w ∈ capitals) (hc : c.toNat < 0x80)
    (h : foldChar c = w.toLower) : c ∈ capitalForms w := by
  have hsmall : ∀ w ∈ capitals, w.toLower.toNat = w.toNat + 32 := forall_mem_of_all (by decide)
  rw [foldChar, if_pos hc] at h
  rcases toLower_cases hc with hsame | hshift
  · rw [← hsame, h]
    exact List.mem_cons_of_mem _ List.mem_cons_self
  · rw [h, hsmall w hw] at hshift
    rw [Char.toNat_inj.mp (Nat.add_right_cancel hshift)]
    exact List.mem_cons_self

theorem sameLetter_capital_iff {w c : Char} (hw : w ∈ capitals) :
    sameLetter w c = true ↔ c ∈ capitalForms w := by
  have hfold : ∀ w ∈ capitals, foldChar w = w.toLower := forall_mem_of_all (by decide)
  have hforms : ∀ w ∈ capitals, ∀ c ∈ capitalForms w, foldChar c = w.toLower :=
    forall_mem_mem_of_all (by decide +kernel)
  rw [sameLetter_iff, hfold w hw]
  constructor
  · intro h
    by_cases hc : c.toNat < 0x80
    · exact foldChar_first hw hc h.symm
    · exact foldChar_beyond hw hc h.symm
  · exact fun hc => (hforms w hw c hc).symm

/-! Which characters have one of the first block in their upper case. Beyond the block itself these are the
dotless i, the long s and what is written out as several letters. -/

/-- The code points beyond the first block with one of the block in their upper case. -/
def upperSources : List Nat :=
  [0xdf, 0x131, 0x149, 0x17f, 0x1f0, 0x1e96, 0x1e97, 0x1e98, 0x1e99, 0x1e9a, 0xfb00, 0xfb01, 0xfb02, 0xfb03,
    0xfb04, 0xfb05, 0xfb06]

theorem apply_upperRows_beyond {n : Nat} (hn : ¬ n < 0x80) (h : CaseRow.apply upperRows n < 0x80) :
    n ∈ upperSources := by
  have hrows : ∀ row ∈ upperRows, row.last < 0x80 ∨ 0x80 ≤ (row.first : Int) + row.shift ∨
      row.first = row.last ∧ row.first ∈ upperSources :=
    forall_mem_of_all (by decide +kernel)
  rcases CaseRow.apply_cases upperRows n with hsame | ⟨row, hrow, hfirst, hlast, hshift⟩
  · exact absurd (hsame ▸ h) hn
  · rcases hrows row hrow with hblock | hbeyond | ⟨hone, hsource⟩
    · omega
    · omega
    · rwa [show n = row.first from by omega]

theorem upperChar_beyond {c m : Char} (hc : ¬ c.toNat < 0x80) (h : m ∈ upperChar c) (hpos : 0 < m.toNat)
    (hm : m.toNat < 0x80) : c.toNat ∈ upperSources := by
  have hexpansions : ∀ e ∈ upperExpansions, ∀ m ∈ e.2, m.toNat < 0x80 → e.1 ∈ upperSources :=
    forall_mem_mem_of_all (by decide +kernel)
  unfold upperChar at h
  rw [if_neg hc] at h
  cases hlookup : upperExpansions.lookup c.toNat with
  | some cs =>
    rw [hlookup] at h
    obtain ⟨before, after, hsplit, -⟩ := List.lookup_eq_some_iff.mp hlookup
    have hmem : (c.toNat, cs) ∈ upperExpansions := by
      rw [hsplit]
      simp
    exact hexpansions _ hmem m h hm
  | none =>
    rw [hlookup] at h
    obtain rfl := List.mem_singleton.mp h
    rcases toNat_ofNat_cases (CaseRow.apply upperRows c.toNat) with hvalue | hvalue
    · exact apply_upperRows_beyond hc (hvalue ▸ hm)
    · omega

/-- What holds of the first block and of its other sources holds of each character that has one of the
block in its upper case. -/
theorem of_mem_upperChar {p : Char → Prop} (hall : ∀ n ∈ List.range 0x80 ++ upperSources, p (Char.ofNat n))
    {c m : Char} (h : m ∈ upperChar c) (hpos : 0 < m.toNat) (hm : m.toNat < 0x80) : p c := by
  rw [← Char.ofNat_toNat c]
  refine hall c.toNat (List.mem_append.mpr ?_)
  by_cases hc : c.toNat < 0x80
  · exact Or.inl (List.mem_range.mpr hc)
  · exact Or.inr (upperChar_beyond hc h hpos hm)

theorem upperChars_append (cs ds : List Char) : upperChars (cs ++ ds) = upperChars cs ++ upperChars ds := by
  rw [upperChars, List.flatMap_append]
  rfl

theorem upperChars_cons (c : Char) (cs : List Char) : upperChars (c :: cs) = upperChar c ++ upperChars cs := by
  rw [upperChars, List.flatMap_cons]
  rfl

end QueryGate
