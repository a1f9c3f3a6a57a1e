import Mathlib.Data.List.Basic
import Mathlib.Data.List.Find
import Mathlib.Data.List.TakeWhile
import QueryGate.Proofs.Sql.Lexing
/-! Places in a text at which lexemes part. Behind such a place stands a blank or a semicolon, which no lexeme in front
goes on with, and no phrase that begins in front of it reaches beyond. -/

namespace QueryGate

/-- A character that is part of no lexeme but strings and comments: a blank or a semicolon. -/
def partsLexemes (c : Char) : Bool :=
  isBlank c || c = ';'

theorem ne_of_partsLexemes {c d : Char} (hc : partsLexemes c = true) (hd : partsLexemes d = false) : c ≠ d := by
  rintro rfl
  rw [hc] at hd
  cases hd

theorem isWordEnd_of_partsLexemes {c : Char} (h : partsLexemes c = true) : isWordEnd c = true := by
  rcases (Bool.or_eq_true _ _).mp h with hblank | hsemi
  · simp [isWordEnd, hblank]
  · rw [of_decide_eq_true hsemi]
    decide

theorem isDigitChar_of_partsLexemes {c : Char} (h : partsLexemes c = true) : isDigitChar c = false := by
  rcases (Bool.or_eq_true _ _).mp h with hblank | hsemi
  · exact Ranges.has_eq_false_of_apart (by decide +kernel) hblank
  · rw [of_decide_eq_true hsemi]
    decide

theorem isOctalDigit_of_partsLexemes {c : Char} (h : partsLexemes c = true) : isOctalDigit c = false := by
  refine Bool.eq_false_iff.mpr fun hoctal => ?_
  have hdigit : c.isDigit = true := by
    simp only [isOctalDigit, Bool.and_eq_true, decide_eq_true_eq] at hoctal
    simp only [Char.isDigit, Bool.and_eq_true, decide_eq_true_eq]
    exact ⟨hoctal.1, UInt32.le_trans hoctal.2 (by decide)⟩
  have hchar := (isDigitChar_of_isDigit hdigit).1
  rw [isDigitChar_of_partsLexemes h] at hchar
  cases hchar

/-- Behind the text stands nothing that a lexeme at its end could go on with. -/
def Parted (z : List Char) : Prop :=
  z.head?.all partsLexemes = true

theorem Parted.head {c : Char} {z : List Char} (h : Parted (c :: z)) : partsLexemes c = true := by
  simpa [Parted] using h

theorem Parted.head?_any {z : List Char} (h : Parted z) {f : Char → Bool}
    (hf : ∀ c, partsLexemes c = true → f c = false) : z.head?.any f = false := by
  cases z with
  | nil => rfl
  | cons c z => simpa using hf c h.head

theorem Parted.takeWhile_append {z : List Char} (h : Parted z) {f : Char → Bool}
    (hf : ∀ c, partsLexemes c = true → f c = false) (p : List Char) :
    (p ++ z).takeWhile f = p.takeWhile f := by
  induction p with
  | nil =>
    cases z with
    | nil => rfl
    | cons c z => simp [hf c h.head]
  | cons d p ih =>
    rw [List.cons_append, List.takeWhile_cons, List.takeWhile_cons, ih]

theorem Parted.isPrefixOf_append {z w : List Char} (h : Parted z) (hw : ∀ c ∈ w, partsLexemes c = false)
    (p : List Char) : w.isPrefixOf (p ++ z) = w.isPrefixOf p := by
  induction w generalizing p with
  | nil => simp
  | cons c w ih =>
    cases p with
    | nil =>
      cases z with
      | nil => rfl
      | cons d z =>
        have hne := ne_of_partsLexemes h.head (hw c List.mem_cons_self)
        simp [List.isPrefixOf, hne.symm]
    | cons d p => simp [List.isPrefixOf, ih fun c hc => hw c (List.mem_cons_of_mem _ hc)]

/-! Numbers and words. -/

theorem Parted.numberLength_append {z : List Char} (h : Parted z) (point mark sign : Bool) (p : List Char) :
    numberLength point mark sign (p ++ z) = numberLength point mark sign p := by
  induction p generalizing point mark sign with
  | nil =>
    cases z with
    | nil => rfl
    | cons c z =>
      have hne : ∀ d ∈ ['.', 'e', 'E', '-', '+'], c ≠ d := fun d hd =>
        ne_of_partsLexemes h.head (forall_mem_of_all (p := fun d => partsLexemes d = false) (by decide +kernel) d hd)
      simp only [List.forall_mem_cons] at hne
      simp [numberLength, isDigitChar_of_partsLexemes h.head, hne]
  | cons c p ih =>
    have hnext : (p ++ z).head?.any isDigitChar = p.head?.any isDigitChar := by
      cases p with
      | nil => exact h.head?_any fun _ => isDigitChar_of_partsLexemes
      | cons d p => rfl
    simp only [List.cons_append, numberLength, ih, hnext]

theorem numberLength_le (point mark sign : Bool) (cs : List Char) :
    numberLength point mark sign cs ≤ cs.length := by
  induction cs generalizing point mark sign with
  | nil => exact Nat.le_refl 0
  | cons c cs ih =>
    have h1 := ih point mark sign
    have h2 := ih true mark sign
    have h3 := ih point true sign
    have h4 := ih point mark true
    unfold numberLength
    rw [List.length_cons]
    split
    · omega
    split
    · omega
    split
    · omega
    split <;> omega

theorem not_isWordEnd_of_partsLexemes {c : Char} (h : partsLexemes c = true) : (!isWordEnd c) = false := by
  rw [isWordEnd_of_partsLexemes h]
  rfl

theorem Parted.numberPiece_append {z : List Char} (h : Parted z) {p : List Char} (hp : p ≠ []) :
    numberPiece (p ++ z) = numberPiece p := by
  obtain ⟨c, p, rfl⟩ := List.exists_cons_of_ne_nil hp
  have hlength := numberLength_le false false false p
  have hcount : 1 + numberLength false false false p ≤ (c :: p).length := by
    rw [List.length_cons]
    omega
  unfold numberPiece
  simp only [List.cons_append, List.tail_cons, h.numberLength_append]
  rw [← List.cons_append, List.drop_append_of_le_length hcount, List.take_append_of_le_length hcount,
    h.takeWhile_append fun _ => not_isWordEnd_of_partsLexemes]
  rfl

theorem Parted.wordPiece_append {z : List Char} (h : Parted z) {p : List Char} (hp : p ≠ []) :
    wordPiece (p ++ z) = wordPiece p := by
  obtain ⟨c, p, rfl⟩ := List.exists_cons_of_ne_nil hp
  unfold wordPiece
  simp only [List.cons_append, List.take_succ_cons, List.take_zero, List.drop_succ_cons, List.drop_zero,
    h.takeWhile_append fun _ => not_isWordEnd_of_partsLexemes]

/-! Phrases and symbols. -/

/-- The last character is no blank. -/
def Tight (p : List Char) : Prop :=
  p.getLast?.all (!isBlank ·) = true

theorem Tight.suffix {p q : List Char} (h : Tight p) (hq : q <:+ p) : Tight q := by
  obtain ⟨front, rfl⟩ := hq
  cases q with
  | nil => rfl
  | cons c q => rwa [Tight, List.getLast?_append_of_ne_nil _ (List.cons_ne_nil c q)] at h

theorem Tight.takeWhile_append {p : List Char} (h : Tight p) (hp : p ≠ []) (z : List Char) :
    (p ++ z).takeWhile isBlank = p.takeWhile isBlank := by
  induction p with
  | nil => exact absurd rfl hp
  | cons c p ih =>
    rw [List.cons_append, List.takeWhile_cons, List.takeWhile_cons]
    cases p with
    | nil =>
      have hc : isBlank c = false := by simpa [Tight] using h
      simp [hc]
    | cons d p => rw [ih (h.suffix (List.suffix_cons c _)) (List.cons_ne_nil d p)]

theorem takeWhile_length_le {α : Type} (f : α → Bool) (l : List α) : (l.takeWhile f).length ≤ l.length :=
  (List.takeWhile_prefix f).length_le

/-- A phrase that is in the text stays what it is. -/
theorem phraseLength_append {ps p : List Char} {n : Nat} (hp : Tight p) (h : phraseLength ps p = some n)
    (z : List Char) : phraseLength ps (p ++ z) = some n ∧ n ≤ p.length := by
  fun_induction phraseLength ps p generalizing n with
  | case1 p =>
    obtain rfl : 0 = n := by simpa using h
    exact ⟨by simp [phraseLength], Nat.zero_le _⟩
  | case2 => cases h
  | case3 ps p =>
    rename_i blanks hblanks ih
    obtain ⟨m, hm, rfl⟩ := Option.map_eq_some_iff.mp h
    have hne : p ≠ [] := by
      rintro rfl
      exact hblanks rfl
    have hle : blanks ≤ p.length := takeWhile_length_le isBlank p
    obtain ⟨hrest, hlength⟩ := ih (hp.suffix (List.drop_suffix _ _)) hm
    rw [List.length_drop] at hlength
    refine ⟨?_, by omega⟩
    simp only [phraseLength, hp.takeWhile_append hne]
    change (if blanks = 0 then none else (phraseLength ps ((p ++ z).drop blanks)).map (· + blanks)) = _
    rw [if_neg hblanks, List.drop_append_of_le_length hle, hrest]
    rfl
  | case4 q ps c p hq hc ih =>
    obtain ⟨m, hm, rfl⟩ := Option.map_eq_some_iff.mp h
    obtain ⟨hrest, hlength⟩ := ih (hp.suffix (List.suffix_cons c _)) hm
    refine ⟨?_, by simpa using hlength⟩
    rw [List.cons_append, phraseLength, if_pos hc, hrest]
    · rfl
    · exact hq
  | case5 => cases h
  | case6 => cases h

/-- A place in a text at which what was read so far does not depend on what stands behind. -/
structure Seam (p z : List Char) : Prop where
  nonempty : p ≠ []
  tight : Tight p
  parted : Parted z
  phrase : ∀ q, q <:+ p → q ≠ [] → ∀ k ∈ phraseKeywords, phraseLength k.1.toList q = none →
    phraseLength k.1.toList (q ++ z) = none

section

variable {p z : List Char}

theorem Seam.suffix (h : Seam p z) {q : List Char} (hq : q <:+ p) (hne : q ≠ []) : Seam q z :=
  ⟨hne, h.tight.suffix hq, h.parted, fun r hr => h.phrase r (hr.trans hq)⟩

theorem Seam.phraseLength_append (h : Seam p z) {k : String × String} (hk : k ∈ phraseKeywords) :
    phraseLength k.1.toList (p ++ z) = phraseLength k.1.toList p := by
  cases hlength : phraseLength k.1.toList p with
  | none => exact h.phrase p List.suffix_rfl h.nonempty k hk hlength
  | some n => exact (QueryGate.phraseLength_append h.tight hlength z).1

theorem findSome?_congr {α β : Type} {f g : α → Option β} {l : List α} (h : ∀ a ∈ l, f a = g a) :
    l.findSome? f = l.findSome? g := by
  induction l with
  | nil => rfl
  | cons a l ih =>
    rw [List.findSome?_cons, List.findSome?_cons, h a List.mem_cons_self,
      ih fun b hb => h b (List.mem_cons_of_mem _ hb)]

theorem Seam.phraseHere?_append (h : Seam p z) : phraseHere? (p ++ z) = phraseHere? p := by
  refine findSome?_congr fun k hk => ?_
  dsimp only
  rw [h.phraseLength_append hk]
  cases hlength : phraseLength k.1.toList p with
  | none => rfl
  | some n =>
    have hn := (QueryGate.phraseLength_append h.tight hlength z).2
    dsimp only
    have hend : ((p ++ z).drop n).head?.all isWordEnd = (p.drop n).head?.all isWordEnd := by
      rw [List.drop_append_of_le_length hn]
      cases hrest : p.drop n with
      | cons c rest => rfl
      | nil =>
        cases z with
        | nil => rfl
        | cons c z => simpa using isWordEnd_of_partsLexemes h.parted.head
    rw [hend]

theorem phraseHere?_length {cs : List Char} {name : String} {n : Nat} (h : phraseHere? cs = some (name, n)) :
    ∃ k ∈ phraseKeywords, phraseLength k.1.toList cs = some n := by
  obtain ⟨k, hk, hfound⟩ := List.exists_of_findSome?_eq_some h
  cases hlength : phraseLength k.1.toList cs with
  | none => simp [hlength] at hfound
  | some m =>
    simp only [hlength, Option.ite_none_right_eq_some, Option.some.injEq, Prod.mk.injEq] at hfound
    obtain ⟨-, -, rfl⟩ := hfound
    exact ⟨k, hk, hlength⟩

theorem Seam.plainPiece_append (h : Seam p z) : plainPiece (p ++ z) = plainPiece p := by
  have hsymbols : ∀ sym ∈ longSymbols, ∀ c ∈ sym.toList, partsLexemes c = false :=
    forall_mem_mem_of_all (by decide +kernel)
  have hsymbol : longSymbols.find? (fun sym => sym.toList.isPrefixOf (p ++ z)) =
      longSymbols.find? (fun sym => sym.toList.isPrefixOf p) :=
    List.find?_congr fun sym hsym => h.parted.isPrefixOf_append (hsymbols sym hsym) p
  have hhead : (p ++ z).head? = p.head? := List.head?_append_of_ne_nil _ h.nonempty
  unfold plainPiece
  rw [h.phraseHere?_append, hsymbol, hhead, h.parted.wordPiece_append h.nonempty]
  cases hphrase : phraseHere? p with
  | none => rfl
  | some found =>
    obtain ⟨k, -, hlength⟩ := phraseHere?_length hphrase
    have hcount := (QueryGate.phraseLength_append h.tight hlength z).2
    simp only [List.take_append_of_le_length hcount]

theorem wordPiece_le (hp : p ≠ []) : (wordPiece p).2 ≤ p.length := by
  obtain ⟨c, p, rfl⟩ := List.exists_cons_of_ne_nil hp
  have hlength := takeWhile_length_le (fun d => !isWordEnd d) p
  unfold wordPiece
  simp only [List.take_succ_cons, List.take_zero, List.drop_succ_cons, List.drop_zero, List.singleton_append]
  split <;> simpa using hlength

theorem numberPiece_le (hp : p ≠ []) : (numberPiece p).2 ≤ p.length := by
  obtain ⟨c, p, rfl⟩ := List.exists_cons_of_ne_nil hp
  have hcount := numberLength_le false false false p
  have hsuffix := takeWhile_length_le (fun d => !isWordEnd d)
    ((c :: p).drop (1 + numberLength false false false p))
  rw [List.length_drop] at hsuffix
  rw [List.length_cons] at hsuffix ⊢
  unfold numberPiece
  dsimp only [List.tail_cons]
  split
  · split <;> dsimp only <;> omega
  · dsimp only
    omega

theorem Seam.plainPiece_le (h : Seam p z) : (plainPiece p).2 ≤ p.length := by
  unfold plainPiece
  cases hphrase : phraseHere? p with
  | some found =>
    obtain ⟨k, -, hlength⟩ := phraseHere?_length hphrase
    exact (QueryGate.phraseLength_append h.tight hlength z).2
  | none =>
    cases hsymbol : longSymbols.find? (fun sym => sym.toList.isPrefixOf p) with
    | some sym =>
      have hfits : sym.toList.isPrefixOf p = true := by simpa using List.find?_some hsymbol
      exact (List.isPrefixOf_iff_prefix.mp hfits).length_le
    | none =>
      have hpos := List.length_pos_iff.mpr h.nonempty
      dsimp only
      split
      · exact hpos
      · split
        · exact hpos
        · exact wordPiece_le h.nonempty
      · exact Nat.zero_le _

/-! Phrases that begin in front of a seam. -/

theorem Tight.drop_blanks_ne_nil (h : Tight p) (hp : p ≠ []) : p.drop (p.takeWhile isBlank).length ≠ [] := by
  intro hnil
  have hall : (p.takeWhile isBlank).length = p.length :=
    (takeWhile_length_le isBlank p).antisymm (List.drop_eq_nil_iff.mp hnil)
  have hblank := List.takeWhile_eq_self_iff.mp ((List.takeWhile_prefix isBlank).eq_of_length hall)
  have hlast := h
  rw [Tight, List.getLast?_eq_some_getLast hp] at hlast
  simp [hblank _ (List.getLast_mem hp)] at hlast

/-- A phrase goes on behind the seam only with what follows the letter it has in front of it. -/
theorem phraseLength_append_none {ps : List Char} (hp : Tight p) {d : Char} (hd : p.getLast? = some d)
    (hz : ∀ c more, (c :: more) <:+ ps → more ≠ [] → upperChar d = [c] → phraseLength more z = none)
    (h : phraseLength ps p = none) : phraseLength ps (p ++ z) = none := by
  fun_induction phraseLength ps p with
  | case1 => cases h
  | case2 ps p =>
    rename_i blanks hblanks
    have hne : p ≠ [] := by
      rintro rfl
      cases hd
    have hnone : ((p ++ z).takeWhile isBlank).length = 0 := by rwa [hp.takeWhile_append hne]
    simp [phraseLength, hnone]
  | case3 ps p =>
    rename_i blanks hblanks ih
    have hne : p ≠ [] := by
      rintro rfl
      cases hd
    have hrest := hp.drop_blanks_ne_nil hne
    have hsuffix := List.drop_suffix blanks p
    have hlast : (p.drop blanks).getLast? = some d := by
      obtain ⟨front, hfront⟩ := hsuffix
      rw [← hfront, List.getLast?_append_of_ne_nil _ hrest] at hd
      exact hd
    have hnone := ih (hp.suffix hsuffix) hlast
      (fun c more hmore => hz c more (hmore.trans (List.suffix_cons ' ' ps))) (by simpa using h)
    have hle : blanks ≤ p.length := takeWhile_length_le isBlank p
    simp only [phraseLength, hp.takeWhile_append hne]
    change (if blanks = 0 then none else (phraseLength ps ((p ++ z).drop blanks)).map (· + blanks)) = _
    rw [if_neg hblanks, List.drop_append_of_le_length hle, hnone]
    rfl
  | case4 q ps c p hq hc ih =>
    have hnext : phraseLength ps p = none := by simpa using h
    have hnone : phraseLength ps (p ++ z) = none := by
      cases p with
      | nil =>
        obtain rfl : c = d := by simpa using hd
        refine hz q ps List.suffix_rfl ?_ hc
        rintro rfl
        simp [phraseLength] at hnext
      | cons e p =>
        exact ih (hp.suffix (List.suffix_cons c _)) (by simpa using hd)
          (fun c more hmore => hz c more (hmore.trans (List.suffix_cons q ps))) hnext
    rw [List.cons_append, phraseLength, if_pos hc, hnone]
    · rfl
    · exact hq
  | case5 q ps c p hq hc =>
    rw [List.cons_append, phraseLength, if_neg hc]
    exact hq
  | case6 => cases hd

theorem Seam.of_phrases (hp : p ≠ []) (htight : Tight p) (hparted : Parted z)
    (h : ∀ d, p.getLast? = some d → ∀ k ∈ phraseKeywords, ∀ c more, (c :: more) <:+ k.1.toList → more ≠ [] →
      upperChar d = [c] → phraseLength more z = none) : Seam p z := by
  refine ⟨hp, htight, hparted, fun q hq hne k hk hnone => ?_⟩
  obtain ⟨d, hd⟩ : ∃ d, q.getLast? = some d := ⟨_, List.getLast?_eq_some_getLast hne⟩
  have hlast : p.getLast? = some d := by
    obtain ⟨front, rfl⟩ := hq
    rw [List.getLast?_append_of_ne_nil _ hne, hd]
  exact phraseLength_append_none (htight.suffix hq) hd (h d hlast k hk) hnone

/-- The upper case of a blank or a semicolon is no letter of a phrase. -/
theorem upperChar_ne_of_partsLexemes {c d : Char} (hd : partsLexemes d = true) (hc : partsLexemes c = false)
    (hpos : 0 < c.toNat) (hbound : c.toNat < 0x80) : upperChar d ≠ [c] := by
  intro h
  have hall : ∀ n ∈ List.range 0x80 ++ upperSources, partsLexemes (Char.ofNat n) = true →
      upperChar (Char.ofNat n) = [Char.ofNat n] := by decide +kernel
  have hsame := of_mem_upperChar (p := fun d => partsLexemes d = true → upperChar d = [d]) hall (h ▸ List.mem_singleton_self c) hpos hbound hd
  rw [hsame] at h
  exact ne_of_partsLexemes hd hc (List.cons.inj h).1

/-- The letters and spaces of a phrase, which ends with a letter. -/
structure IsPhrase (ps : List Char) : Prop where
  letters : ∀ c ∈ ps, c = ' ' ∨ partsLexemes c = false ∧ 0 < c.toNat ∧ c.toNat < 0x80
  last : ps.getLast?.all (· ≠ ' ') = true

theorem isPhrase_of_mem {k : String × String} (hk : k ∈ phraseKeywords) : IsPhrase k.1.toList := by
  have hletters : ∀ k ∈ phraseKeywords, ∀ c ∈ k.1.toList, c = ' ' ∨ partsLexemes c = false ∧ 0 < c.toNat ∧ c.toNat < 0x80 :=
    forall_mem_mem_of_all (by decide +kernel)
  have hlast : ∀ k ∈ phraseKeywords, k.1.toList.getLast?.all (· ≠ ' ') = true := by decide +kernel
  exact ⟨hletters k hk, hlast k hk⟩

theorem IsPhrase.suffix {ps more : List Char} (h : IsPhrase ps) (hmore : more <:+ ps) : IsPhrase more := by
  obtain ⟨front, rfl⟩ := hmore
  refine ⟨fun c hc => h.letters c (List.mem_append_right _ hc), ?_⟩
  have hlast := h.last
  cases more with
  | nil => rfl
  | cons c more => rwa [List.getLast?_append_of_ne_nil _ (List.cons_ne_nil c more)] at hlast

theorem IsPhrase.not_parting {ps : List Char} (h : IsPhrase ps) (hps : ps ≠ []) (hx : ∀ c ∈ x, partsLexemes c = true) :
    phraseLength ps x = none := by
  fun_induction phraseLength ps x with
  | case1 => exact absurd rfl hps
  | case2 => rfl
  | case3 ps x =>
    rename_i blanks hblanks ih
    have hne : ps ≠ [] := by
      rintro rfl
      exact absurd h.last (by decide)
    rw [ih (h.suffix (List.suffix_cons _ _)) hne fun c hc => hx c (List.mem_of_mem_drop hc)]
    rfl
  | case4 q ps c x hq hc ih =>
    obtain rfl | ⟨hletter, hpos, hbound⟩ := h.letters q List.mem_cons_self
    · exact absurd rfl hq
    · exact absurd hc (upperChar_ne_of_partsLexemes (hx c List.mem_cons_self) hletter hpos hbound)
  | case5 => rfl
  | case6 => rfl

theorem seam_parting (hp : p ≠ []) (htight : Tight p) (hx : ∀ c ∈ x, partsLexemes c = true) : Seam p x := by
  refine .of_phrases hp htight ?_ fun d _ k hk c more hmore hne _ => ?_
  · cases x with
    | nil => rfl
    | cons c x => exact hx c List.mem_cons_self
  · exact ((isPhrase_of_mem hk).suffix ((List.suffix_cons c more).trans hmore)).not_parting hne hx

end

end QueryGate
