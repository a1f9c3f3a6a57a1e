import Mathlib.Data.List.Forall2
import QueryGate.Statement.ReadOnly
/-! Where a word occurs in a text. The search for denied words finds one exactly if a stretch of the text
spells it, and no occurrence reaches across a character that spells none of the word's letters. -/

namespace QueryGate

/-- Some stretch of the text spells the word, in whatever case. -/
def Occurs (word cs : List Char) : Prop :=
  ∃ before found after, cs = before ++ found ++ after ∧
    List.Forall₂ (fun w c => sameLetter w c = true) word found

theorem Occurs.append_right {word a : List Char} (h : Occurs word a) (b : List Char) :
    Occurs word (a ++ b) := by
  obtain ⟨before, found, after, rfl, hf⟩ := h
  exact ⟨before, found, after ++ b, by simp only [List.append_assoc], hf⟩

theorem Occurs.append_left {word b : List Char} (h : Occurs word b) (a : List Char) :
    Occurs word (a ++ b) := by
  obtain ⟨before, found, after, rfl, hf⟩ := h
  exact ⟨a ++ before, found, after, by simp only [List.append_assoc], hf⟩

theorem Occurs.of_infix {word a b : List Char} (h : Occurs word a) (hab : a <:+: b) :
    Occurs word b := by
  obtain ⟨s, t, rfl⟩ := hab
  exact (h.append_left s).append_right t

theorem afterLetters_eq_some {word cs rest : List Char} :
    afterLetters? word cs = some rest ↔
      ∃ found, cs = found ++ rest ∧ List.Forall₂ (fun w c => sameLetter w c = true) word found := by
  induction word generalizing cs with
  | nil =>
    constructor
    · intro h
      exact ⟨[], by simpa [afterLetters?] using h, .nil⟩
    · rintro ⟨found, rfl, hf⟩
      cases hf
      simp [afterLetters?]
  | cons w ws ih =>
    constructor
    · intro h
      cases cs with
      | nil => simp [afterLetters?] at h
      | cons c cs =>
        by_cases hc : sameLetter w c = true
        · simp only [afterLetters?, hc, if_true] at h
          obtain ⟨found, rfl, hf⟩ := ih.mp h
          exact ⟨c :: found, rfl, .cons hc hf⟩
        · simp [afterLetters?, hc] at h
    · rintro ⟨found, rfl, hf⟩
      cases hf with
      | cons hc hf =>
        simp only [List.cons_append, afterLetters?, hc, if_true]
        exact ih.mpr ⟨_, rfl, hf⟩

theorem occurs_iff_suffix {word cs : List Char} :
    Occurs word cs ↔ ∃ before rest, cs = before ++ rest ∧ (afterLetters? word rest).isSome := by
  constructor
  · rintro ⟨before, found, after, rfl, hf⟩
    exact ⟨before, found ++ after, by simp only [List.append_assoc],
      Option.isSome_iff_exists.mpr ⟨after, afterLetters_eq_some.mpr ⟨found, rfl, hf⟩⟩⟩
  · rintro ⟨before, rest, rfl, h⟩
    obtain ⟨after, ha⟩ := Option.isSome_iff_exists.mp h
    obtain ⟨found, rfl, hf⟩ := afterLetters_eq_some.mp ha
    exact ⟨before, found, after, by simp only [List.append_assoc], hf⟩

theorem occurs_cons_iff {word cs : List Char} {c : Char} :
    Occurs word (c :: cs) ↔ (afterLetters? word (c :: cs)).isSome ∨ Occurs word cs := by
  simp only [occurs_iff_suffix]
  constructor
  · rintro ⟨before, rest, he, h⟩
    cases before with
    | nil => exact Or.inl (by simpa only [he, List.nil_append] using h)
    | cons b before =>
      obtain ⟨rfl, rfl⟩ := List.cons.inj he
      exact Or.inr ⟨before, rest, rfl, h⟩
  · rintro (h | ⟨before, rest, rfl, h⟩)
    · exact ⟨[], c :: cs, rfl, h⟩
    · exact ⟨c :: before, rest, rfl, h⟩

theorem not_mem_of_no_letter {word found : List Char} {x : Char}
    (hx : ∀ w ∈ word, sameLetter w x = false)
    (h : List.Forall₂ (fun w c => sameLetter w c = true) word found) : x ∉ found := by
  intro hmem
  induction h with
  | nil => cases hmem
  | @cons w c word found hc _ ih =>
    rcases List.mem_cons.mp hmem with rfl | hmem
    · rw [hx w List.mem_cons_self] at hc
      cases hc
    · exact ih (fun w hw => hx w (List.mem_cons_of_mem _ hw)) hmem

/-- A character that is none of the word's letters is a seam: no occurrence reaches across it. -/
theorem Occurs.of_seam {word a b : List Char} {x : Char}
    (hx : ∀ w ∈ word, sameLetter w x = false) (h : Occurs word (a ++ x :: b)) :
    Occurs word a ∨ Occurs word b := by
  obtain ⟨before, found, after, he, hf⟩ := h
  have hmem : x ∉ found := not_mem_of_no_letter hx hf
  rw [List.append_assoc] at he
  rcases List.append_eq_append_iff.mp he with ⟨c, hb, hc⟩ | ⟨c, ha, hc⟩
  · cases c with
    | nil =>
      have hfa : x :: b = found ++ after := by simpa using hc
      cases found with
      | nil =>
        refine Or.inl ⟨a, [], [], by simp, ?_⟩
        cases hf
        exact .nil
      | cons y found =>
        obtain ⟨rfl, -⟩ := List.cons.inj hfa
        exact absurd (List.mem_cons_self ..) hmem
    | cons y c =>
      have hbc : b = c ++ (found ++ after) := (List.cons.inj hc).2
      exact Or.inr ⟨c, found, after, by rw [hbc, List.append_assoc], hf⟩
  · rcases List.append_eq_append_iff.mp hc with ⟨d, hd, -⟩ | ⟨d, hd, he'⟩
    · exact Or.inl ⟨before, found, d, by rw [ha, hd, List.append_assoc], hf⟩
    · cases d with
      | nil =>
        have hfc : found = c := by simpa using hd
        exact Or.inl ⟨before, found, [], by rw [ha, ← hfc, List.append_nil], hf⟩
      | cons y d =>
        obtain ⟨rfl, -⟩ := List.cons.inj he'
        exact absurd (by simp [hd]) hmem

theorem not_occurs_of_no_letter {w : Char} {word cs : List Char}
    (h : ∀ c ∈ cs, sameLetter w c = false) : ¬ Occurs (w :: word) cs := by
  rintro ⟨before, found, after, rfl, hf⟩
  cases hf with
  | @cons _ c _ _ hw _ =>
    have hc := h c (by simp)
    rw [hw] at hc
    exact Bool.false_ne_true hc.symm

theorem deniedPart_eq_none_iff {keywords : List (List Char)} {cs : List Char} :
    deniedPart? keywords cs = none ↔ ∀ k ∈ keywords, ¬ Occurs k cs := by
  induction cs with
  | nil =>
    have hnil : ∀ k, Occurs k [] ↔ (afterLetters? k []).isSome := by
      intro k
      rw [occurs_iff_suffix]
      constructor
      · rintro ⟨before, rest, he, h⟩
        have hr : rest = [] := (List.append_eq_nil_iff.mp he.symm).2
        simpa only [hr] using h
      · exact fun h => ⟨[], [], rfl, h⟩
    simp [deniedPart?, deniedHere?, hnil]
  | cons c cs ih =>
    cases hd : deniedHere? keywords (c :: cs) with
    | some found =>
      simp only [deniedPart?, hd, reduceCtorEq, false_iff]
      simp only [deniedHere?, Option.map_eq_some_iff, List.find?_eq_some_iff_append] at hd
      obtain ⟨k, ⟨hk, before, after, rfl, -⟩, -⟩ := hd
      exact fun hno => hno k (by simp) (occurs_cons_iff.mpr (Or.inl hk))
    | none =>
      simp only [deniedPart?, hd, ih]
      simp only [deniedHere?, Option.map_eq_none_iff, List.find?_eq_none] at hd
      constructor
      · intro hno k hk hocc
        exact (occurs_cons_iff.mp hocc).elim (hd k hk) (hno k hk)
      · intro hno k hk hocc
        exact hno k hk (occurs_cons_iff.mpr (Or.inr hocc))

/-- A text is clear of denied words exactly if none of them occurs in it. -/
theorem findDenied_eq_none_iff {denied : List String} {sql : String} :
    findDenied denied sql = none ↔
      ∀ word ∈ denied, ¬ Occurs (upperChars word.toList) sql.toList := by
  simp [findDenied, deniedPart_eq_none_iff]

/-- What is found is never empty, unless a keyword is. -/
theorem deniedPart_ne_nil {keywords : List (List Char)} {cs found : List Char}
    (hk : ∀ k ∈ keywords, k ≠ []) (h : deniedPart? keywords cs = some found) : found ≠ [] := by
  have here : ∀ cs, deniedHere? keywords cs = some found → found ≠ [] := by
    intro cs h
    simp only [deniedHere?, Option.map_eq_some_iff, List.find?_eq_some_iff_append] at h
    obtain ⟨k, ⟨hs, before, after, rfl, -⟩, rfl⟩ := h
    obtain ⟨rest, hr⟩ := Option.isSome_iff_exists.mp hs
    obtain ⟨part, rfl, hf⟩ := afterLetters_eq_some.mp hr
    have hlen : k.length = part.length := hf.length_eq
    rw [hlen, List.take_left']
    · intro he
      exact hk k (by simp) (List.length_eq_zero_iff.mp (by simpa [he] using hlen))
    · rfl
  induction cs with
  | nil => exact here [] h
  | cons c cs ih =>
    cases hd : deniedHere? keywords (c :: cs) with
    | some part =>
      simp only [deniedPart?, hd, Option.some.injEq] at h
      exact here _ (by rw [hd, h])
    | none => exact ih (by simpa only [deniedPart?, hd] using h)

theorem upperChar_ne_nil (c : Char) : upperChar c ≠ [] := by
  have hrow : ∀ row ∈ upperExpansions, row.2 ≠ [] := by decide
  unfold upperChar
  split
  · simp
  · split
    · rename_i cs hcs
      obtain ⟨l, r, he, -⟩ := List.lookup_eq_some_iff.mp hcs
      exact hrow (c.toNat, cs) (by simp [he])
    · simp

theorem upperChars_ne_nil {cs : List Char} (h : cs ≠ []) : upperChars cs ≠ [] := by
  cases cs with
  | nil => exact absurd rfl h
  | cons c cs => simp [upperChars, upperChar_ne_nil c]

/-- A denied word that is found is not empty, if none of the list is. -/
theorem findDenied_filter {denied : List String} (hwords : ∀ word ∈ denied, word ≠ "") (sql : String) :
    (findDenied denied sql).filter (!·.isEmpty) = findDenied denied sql := by
  unfold findDenied
  dsimp only
  cases hp : deniedPart? (denied.map fun k => upperChars k.toList) sql.toList with
  | none => rfl
  | some found =>
    have hne : found ≠ [] := by
      refine deniedPart_ne_nil (fun k hk => ?_) hp
      obtain ⟨word, hword, rfl⟩ := List.mem_map.mp hk
      exact upperChars_ne_nil (by simpa using hwords word hword)
    simp [upperChars_ne_nil hne]

end QueryGate
