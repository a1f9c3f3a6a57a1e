import Mathlib.Tactic.IntervalCases
import QueryGate.Proofs.Statement.Occurrence
import QueryGate.Statement.RowCap
/-! Adapting a statement keeps it clear of denied words: what is put in is clear itself, and every place
where it meets the statement is a seam. -/

namespace QueryGate

def deniedLetters : List Char :=
  defaultDenied.flatMap fun k => upperChars k.toList

theorem mem_deniedLetters {k : String} {w : Char} (hk : k ∈ defaultDenied)
    (hw : w ∈ upperChars k.toList) : w ∈ deniedLetters :=
  List.mem_flatMap.mpr ⟨k, hk, hw⟩

/-- A character that is a letter of no denied word. -/
def IsSeam (x : Char) : Prop :=
  (deniedLetters.all fun w => !sameLetter w x) = true

instance (x : Char) : Decidable (IsSeam x) :=
  inferInstanceAs (Decidable (_ = true))

theorem IsSeam.sameLetter {x : Char} (hx : IsSeam x) {k : String} (hk : k ∈ defaultDenied) :
    ∀ w ∈ upperChars k.toList, sameLetter w x = false := by
  intro w hw
  have h := List.all_eq_true.mp hx w (mem_deniedLetters hk hw)
  simpa using h

/-- No denied word occurs in the text. -/
def IsClear (cs : List Char) : Prop :=
  ∀ k ∈ defaultDenied, ¬ Occurs (upperChars k.toList) cs

theorem isClear_iff_findDenied {sql : String} :
    IsClear sql.toList ↔ findDenied defaultDenied sql = none :=
  findDenied_eq_none_iff.symm

theorem IsClear.of_infix {a b : List Char} (h : IsClear b) (hab : a <:+: b) : IsClear a :=
  fun k hk ho => h k hk (ho.of_infix hab)

theorem IsClear.join {a b : List Char} {x : Char} (ha : IsClear a) (hx : IsSeam x)
    (hb : IsClear b) : IsClear (a ++ x :: b) := by
  intro k hk ho
  exact (ho.of_seam (hx.sameLetter hk)).elim (ha k hk) (hb k hk)

theorem denied_word_ne_nil {k : String} (hk : k ∈ defaultDenied) : upperChars k.toList ≠ [] := by
  revert k
  decide +kernel

theorem isClear_of_forall_isSeam {cs : List Char} (h : ∀ c ∈ cs, IsSeam c) : IsClear cs := by
  intro k hk
  obtain ⟨w, word, hw⟩ := List.exists_cons_of_ne_nil (denied_word_ne_nil hk)
  rw [hw]
  exact not_occurs_of_no_letter fun c hc => (h c hc).sameLetter hk w (by simp [hw])

theorem isSeam_of_isDigit {c : Char} (h : c.isDigit = true) : IsSeam c := by
  have hlo : 48 ≤ c.toNat ∧ c.toNat ≤ 57 := by
    simp only [Char.isDigit, Bool.and_eq_true, decide_eq_true_eq] at h
    exact ⟨UInt32.le_iff_toNat_le.mp h.1, UInt32.le_iff_toNat_le.mp h.2⟩
  obtain ⟨h1, h2⟩ := hlo
  have hc : c = Char.ofNat c.toNat := (Char.ofNat_toNat c).symm
  rw [hc]
  interval_cases c.toNat <;> decide +kernel

/-- Whatever spells a space is a seam too. -/
theorem isSeam_of_sameLetter_space {c : Char} (h : sameLetter ' ' c = true) : IsSeam c := by
  have hfold : (deniedLetters.all fun w => foldChar w != foldChar ' ') = true := by decide +kernel
  have hc : foldChar c = foldChar ' ' := by
    rcases (by simpa [sameLetter] using h : ' ' = c ∨ foldChar ' ' = foldChar c) with rfl | he
    · rfl
    · exact he.symm
  refine List.all_eq_true.mpr fun w hw => ?_
  have hne : foldChar w ≠ foldChar ' ' := by simpa using List.all_eq_true.mp hfold w hw
  have hwc : w ≠ c := fun he => hne (he ▸ hc)
  simp [sameLetter, hwc, hc, hne]

theorem validate_ok_clear {sql : String} {t : Tree}
    (h : validate defaultDenied sql = .ok t) : findDenied defaultDenied sql = none := by
  unfold validate at h
  rw [findDenied_filter (by decide)] at h
  cases hf : findDenied defaultDenied sql with
  | none => rfl
  | some word => simp [hf] at h

theorem splitAfterLetters_spec {word cs before rest : List Char}
    (h : splitAfterLetters? word cs = some (before, rest)) :
    cs = before ++ rest ∧ ∃ pre found, before = pre ++ found ∧
      List.Forall₂ (fun w c => sameLetter w c = true) word found := by
  induction cs generalizing before with
  | nil =>
    by_cases hw : word.isEmpty = true
    · simp only [splitAfterLetters?, hw, if_true, Option.some.injEq, Prod.mk.injEq] at h
      obtain ⟨rfl, rfl⟩ := h
      refine ⟨rfl, [], [], rfl, ?_⟩
      rw [List.isEmpty_iff.mp hw]
      exact .nil
    · simp [splitAfterLetters?, hw] at h
  | cons c cs ih =>
    cases ha : afterLetters? word (c :: cs) with
    | some rest' =>
      simp only [splitAfterLetters?, ha, Option.some.injEq, Prod.mk.injEq] at h
      obtain ⟨found, he, hf⟩ := afterLetters_eq_some.mp ha
      obtain ⟨hb, rfl⟩ := h
      rw [he, hf.length_eq, List.take_left'] at hb
      · exact ⟨by rw [he, hb], [], found, by simp [hb], hf⟩
      · rfl
    | none =>
      simp only [splitAfterLetters?, ha, Option.map_eq_some_iff, Prod.mk.injEq, Prod.exists] at h
      obtain ⟨before', rest', hs, rfl, rfl⟩ := h
      obtain ⟨rfl, pre, found, rfl, hf⟩ := ih hs
      exact ⟨rfl, c :: pre, found, rfl, hf⟩

/-- The catalog lands between a space and a point. -/
theorem injectCatalog_clear {catalog sql : String}
    (hc : findDenied defaultDenied catalog = none) (hs : findDenied defaultDenied sql = none) :
    findDenied defaultDenied (injectCatalog catalog sql) = none := by
  rw [← isClear_iff_findDenied] at *
  unfold injectCatalog
  cases hsplit : splitAfterLetters? fromWord sql.toList with
  | none => exact hs
  | some parts =>
    obtain ⟨before, rest⟩ := parts
    obtain ⟨he, pre, found, rfl, hf⟩ := splitAfterLetters_spec hsplit
    obtain ⟨word, last, rfl, hlast⟩ : ∃ word last, found = word ++ [last] ∧
        sameLetter ' ' last = true := by
      have hfrom : fromWord = "FROM".toList ++ [' '] := by decide
      rw [hfrom] at hf
      have ht := List.forall₂_drop_append _ _ _ hf.flip
      obtain ⟨last, tail, hlast, htail, hd⟩ := List.forall₂_cons_right_iff.mp ht
      cases htail
      exact ⟨_, last, by rw [← hd, List.take_append_drop], hlast⟩
    have hpre : IsClear (pre ++ word) :=
      hs.of_infix ⟨[], last :: rest, by simp [he]⟩
    have hrest : IsClear rest := hs.of_infix ⟨pre ++ (word ++ [last]), [], by simp [he]⟩
    have hcat := (hc.join (by decide +kernel : IsSeam '.') hrest)
    have hall := hpre.join (isSeam_of_sameLetter_space hlast) hcat
    simpa using hall

theorem trimEndOf_isPrefix (p : Char → Bool) (cs : List Char) : trimEndOf p cs <+: cs := by
  have hs : cs.reverse.dropWhile p <:+ cs.reverse := List.dropWhile_suffix p
  simpa [trimEndOf] using List.reverse_prefix.mpr hs

theorem statementBody_isPrefix (cs : List Char) : statementBody cs <+: cs := by
  unfold statementBody
  have ht : trimEndBlanks cs <+: cs := trimEndOf_isPrefix isBlank cs
  dsimp only
  split
  · exact ((trimEndOf_isPrefix isBlank _).trans (List.dropLast_prefix _)).trans ht
  · exact ht

theorem isClear_limit (cap : Nat) : IsClear ("LIMIT ".toList ++ Nat.toDigits 10 cap ++ [';']) := by
  have hword : IsClear "LIMIT".toList := isClear_iff_findDenied.mpr (by decide +kernel)
  have hrest : IsClear (Nat.toDigits 10 cap ++ [';']) := by
    refine isClear_of_forall_isSeam fun c hc => ?_
    rcases List.mem_append.mp hc with h | h
    · exact isSeam_of_isDigit (Nat.isDigit_of_mem_toDigits (by decide) (by decide) h)
    · rw [List.mem_singleton.mp h]
      decide +kernel
  have hall := hword.join (by decide +kernel : IsSeam ' ') hrest
  simpa using hall

/-- The tail that is put behind a statement begins with a seam. -/
theorem applyRowCap_clear {sql : String} (cap : Nat)
    (hs : findDenied defaultDenied sql = none) :
    findDenied defaultDenied (applyRowCap sql cap) = none := by
  rw [← isClear_iff_findDenied] at *
  unfold applyRowCap
  split
  · exact hs
  · have hbody : IsClear (statementBody sql.toList) :=
      hs.of_infix (statementBody_isPrefix _).isInfix
    have hnil : IsClear [] := isClear_of_forall_isSeam (by simp)
    have hcap : intText (cap : Int) = String.ofList (Nat.toDigits 10 cap) := by
      simp [intText, digitsText]
    have hfeed : IsSeam '\n' := by decide +kernel
    have hspace : IsSeam ' ' := by decide +kernel
    have hsemi : IsSeam ';' := by decide +kernel
    have hmark : IsClear [';'] := isClear_of_forall_isSeam (by simpa using hsemi)
    dsimp only
    rw [String.toList_ofList, hcap]
    split
    · split
      · exact hbody.join hfeed hmark
      · exact hbody.join hsemi hnil
    · split
      · simpa using hbody.join hfeed (isClear_limit cap)
      · simpa using hbody.join hspace (isClear_limit cap)

/-- The text that is sent for an accepted statement holds no denied word, if the catalog holds none. -/
theorem adaptStatement_clear {sql catalog : String} (cap : Nat)
    (hc : findDenied defaultDenied catalog = none) (hs : findDenied defaultDenied sql = none) :
    findDenied defaultDenied (adaptStatement sql catalog cap) = none := by
  unfold adaptStatement
  apply applyRowCap_clear
  split
  · exact hs
  · exact injectCatalog_clear hc hs

end QueryGate
