import QueryGate.Proofs.Query.Shape
import QueryGate.Proofs.Statement.Letter
import QueryGate.Sql.Identifier
import QueryGate.Sql.StringLiteral
import QueryGate.Sql.Token.Lexer
/-! How single lexemes are split off a text. What a lexeme is read as depends on the characters behind
it, which have to be such that the lexeme ends there. -/

namespace QueryGate

/-- A token behind which a statement starts, so that a command may open there. -/
def endsStatement (t : Token) : Bool :=
  t.name = ";" || t.name = "BEGIN"

/-- The text is split into these tokens, whatever was read before it, and no statement ends in it. -/
inductive Lexes : List Char → List Token → Prop
  | nil : Lexes [] []
  | space {cs : List Char} {ts : List Token} (h : Lexes cs ts) : Lexes (' ' :: cs) ts
  | token {lexeme cs : List Char} {t : Token} {ts : List Token} (hlexeme : lexeme ≠ [])
    (hscan : ∀ afterSelect,
      scan afterSelect (lexeme ++ cs) = .ok (.token t.kind t.text t.name, lexeme.length))
    (hnoted : t.noted = false) (hwithin : endsStatement t = false) (h : Lexes cs ts) :
    Lexes (lexeme ++ cs) (t :: ts)

/-- No command opens inside a statement. -/
theorem LexState.atCommand_eq_false {s : LexState} {t : Token} {before : List Token}
    (h : s.tokens = t :: before) (hbefore : before.head?.elim (opensCommand t) endsStatement = false) :
    s.atCommand = false := by
  unfold atCommand
  rw [h]
  cases before with
  | nil => exact hbefore
  | cons b before => exact (Bool.and_eq_false_iff).mpr (.inr hbefore)

theorem Lexes.run {cs : List Char} {ts : List Token} (h : Lexes cs ts) {n : Nat}
    (hfuel : cs.length < n) {s : LexState} (hrest : s.rest = cs) (hpending : s.pending = false)
    (hbefore : ∀ t ∈ ts.head?, s.tokens.head?.elim (opensCommand t) endsStatement = false) :
    ∃ s', LexState.run n s = .ok s' ∧ s'.tokens = ts.reverse ++ s.tokens ∧ s'.pending = false := by
  induction h generalizing n s with
  | nil =>
    obtain ⟨n, rfl⟩ : ∃ k, n = k + 1 := ⟨n - 1, by omega⟩
    exact ⟨s, by simp [LexState.run, hrest], by simp, hpending⟩
  | @space cs ts h ih =>
    obtain ⟨n, rfl⟩ : ∃ k, n = k + 1 := ⟨n - 1, by omega⟩
    have hstep : s.step = .ok (s.skip 1) := by
      unfold LexState.step
      rw [hrest]
      rfl
    obtain ⟨s', hrun, htokens, hp⟩ := ih (n := n) (s := s.skip 1)
      (by simp only [List.length_cons] at hfuel; omega) (by simp [LexState.skip, hrest]) hpending hbefore
    refine ⟨s', ?_, htokens, hp⟩
    have hsame : (s.skip 1).tokens = s.tokens := rfl
    simp [LexState.run, hrest, hstep, hsame, hrun]
  | @token lexeme cs t ts hlexeme hscan hnoted hwithin h ih =>
    obtain ⟨n, rfl⟩ : ∃ k, n = k + 1 := ⟨n - 1, by omega⟩
    have hlength : 0 < lexeme.length := List.length_pos_iff.mpr hlexeme
    have hstep : s.step = .ok (s.pass (.token t.kind t.text t.name) lexeme.length) := by
      unfold LexState.step
      rw [hrest, hscan]
    have hnext : (s.pass (.token t.kind t.text t.name) lexeme.length).tokens = t :: s.tokens := by
      change ⟨t.kind, t.text, t.name, s.pending⟩ :: s.tokens = t :: s.tokens
      rw [hpending, ← hnoted]
    obtain ⟨s', hrun, htokens, hp⟩ := ih (n := n)
      (s := s.pass (.token t.kind t.text t.name) lexeme.length)
      (by simp only [List.length_append] at hfuel; omega)
      (by simp [LexState.pass, Piece.token, LexState.add, LexState.skip, hrest]) rfl
      (fun _ _ => by rw [hnext]; exact hwithin)
    refine ⟨s', ?_, by rw [htokens, hnext]; simp, hp⟩
    simp [LexState.run, hrest, hstep, LexState.atCommand_eq_false hnext (hbefore t rfl), hrun, hlexeme]

theorem Lexes.tokenize {cs : List Char} {ts : List Token} (h : Lexes cs ts)
    (hfirst : ∀ t ∈ ts.head?, opensCommand t = false) : tokenize (String.ofList cs) = .ok ts := by
  obtain ⟨s, hrun, htokens, hpending⟩ := h.run (n := cs.length + 1) (by omega)
    (s := LexState.start cs) rfl rfl hfirst
  have hstart : (LexState.start cs).tokens = [] := rfl
  simp [QueryGate.tokenize, hrun, htokens, hpending, hstart]

/-! Characters of words. -/

theorem Ranges.exists_of_covers {ranges : Ranges} {n : Nat} (h : ranges.covers n = true) :
    ∃ r ∈ ranges, r.1 ≤ n ∧ n ≤ r.2 := by
  induction ranges with
  | nil => simp [covers] at h
  | cons r rest ih =>
    obtain ⟨lo, hi⟩ := r
    unfold covers at h
    split at h
    · simp at h
    · split at h
      · exact ⟨(lo, hi), List.mem_cons_self, by simp only; omega, by simpa⟩
      · obtain ⟨r, hr, hn⟩ := ih h
        exact ⟨r, List.mem_cons_of_mem _ hr, hn⟩

/-- No character is in ranges of which none meets another one. -/
theorem Ranges.has_eq_false_of_apart {ranges others : Ranges}
    (hapart : ∀ r ∈ ranges, ∀ b ∈ others, r.2 < b.1 ∨ b.2 < r.1) {c : Char} (hc : others.has c = true) :
    ranges.has c = false := by
  obtain ⟨b, hb, hlo, hhi⟩ := Ranges.exists_of_covers hc
  refine Bool.eq_false_iff.mpr fun h => ?_
  obtain ⟨r, hr, hlo', hhi'⟩ := Ranges.exists_of_covers h
  rcases hapart r hr b hb with h | h <;> omega

theorem isWordChar_of_isWordEnd {c : Char} (h : isWordEnd c = true) : isWordChar c = false := by
  rcases (Bool.or_eq_true _ _).mp h with hb | hs
  · exact Ranges.has_eq_false_of_apart (by decide +kernel) hb
  · have hall : ∀ d ∈ "()[]\x7b\x7d&^:,-.><=!|+;/\\*~?@#$%'\"\x60".toList, isWordChar d = false :=
      forall_mem_of_all (by decide +kernel)
    exact hall c (by simpa [isSymbolChar] using hs)

theorem isWordEnd_of_isWordChar {c : Char} (h : isWordChar c = true) : isWordEnd c = false := by
  refine Bool.eq_false_iff.mpr fun he => ?_
  rw [isWordChar_of_isWordEnd he] at h
  cases h

/-- What the first character of a bare name is not. -/
structure IsWordStart (c : Char) : Prop where
  word : isWordChar c = true
  digit : isDigitChar c = false
  quote : c ∉ ['\x60', '\'', '"', '-', '/']

theorem IsWordStart.of_isNameStart {c : Char} (h : isNameStart c = true) : IsWordStart c := by
  have hbound : c.toNat < 128 := by
    simp only [isNameStart, Bool.or_eq_true, Bool.and_eq_true, decide_eq_true_eq, Char.le_def,
      UInt32.le_iff_toNat_le] at h
    have hz : ('z' : Char).val.toNat = 122 := rfl
    have hZ : ('Z' : Char).val.toNat = 90 := rfl
    rcases h with (rfl | h) | h
    · decide
    · simp only [Char.toNat]
      omega
    · simp only [Char.toNat]
      omega
  have hall : ∀ n < 128, isNameStart (Char.ofNat n) = true → isWordChar (Char.ofNat n) = true ∧
      isDigitChar (Char.ofNat n) = false ∧ Char.ofNat n ∉ ['\x60', '\'', '"', '-', '/'] := by
    decide +kernel
  have hc := hall c.toNat hbound
  rw [Char.ofNat_toNat] at hc
  obtain ⟨hw, hd, hq⟩ := hc h
  exact ⟨hw, hd, hq⟩

/-! Words. A word ends at a character that cannot be part of one, and no phrase may start with it. -/

/-- Characters behind a word, where a query is put together from data. -/
def isBreak (c : Char) : Bool :=
  [' ', ',', '(', ')', '.'].contains c

theorem isWordEnd_of_isBreak {c : Char} (h : isBreak c = true) : isWordEnd c = true := by
  have hall : ∀ d ∈ [' ', ',', '(', ')', '.'], isWordEnd d = true := forall_mem_of_all (by decide)
  exact hall c (by simpa [isBreak] using h)

theorem upperChar_of_isBreak {c : Char} (h : isBreak c = true) : upperChar c = [c] := by
  have hall : ∀ d ∈ [' ', ',', '(', ')', '.'], upperChar d = [d] := forall_mem_of_all (by decide)
  exact hall c (by simpa [isBreak] using h)

theorem isBlank_of_isWordChar {c : Char} (h : isWordChar c = true) : isBlank c = false :=
  ((Bool.or_eq_false_iff).mp (isWordEnd_of_isWordChar h)).1

/-- A phrase that ends at a word's end and starts with a word has it for its first, and the rest of the
phrase stands behind it. -/
theorem phraseLength_word {front more w cs : List Char} {n : Nat}
    (hfront : ∀ p ∈ front, isWordChar p = true) (hmore : more.head?.all (· = ' ') = true)
    (hw : ∀ c ∈ w, isWordChar c = true) (hcs : cs.head?.all isBreak = true)
    (h : phraseLength (front ++ more) (w ++ cs) = some n)
    (hend : ((w ++ cs).drop n).head?.all isWordEnd = true) :
    upperChars w = front ∧ ∃ m, n = w.length + m ∧ phraseLength more cs = some m := by
  induction front generalizing w n with
  | nil =>
    cases w with
    | nil => exact ⟨rfl, n, by simp, h⟩
    | cons c w =>
      have hc : isWordChar c = true := hw c List.mem_cons_self
      cases more with
      | nil =>
        obtain rfl : 0 = n := by simpa [phraseLength] using h
        simp [isWordEnd_of_isWordChar hc] at hend
      | cons p more =>
        obtain rfl : p = ' ' := by simpa using hmore
        simp [phraseLength, isBlank_of_isWordChar hc] at h
  | cons p front ih =>
    have hp : isWordChar p = true := hfront p List.mem_cons_self
    have hspace : p ≠ ' ' := by
      rintro rfl
      revert hp
      decide
    cases w with
    | nil =>
      cases cs with
      | nil => simp [phraseLength] at h
      | cons c cs =>
        have hc : isBreak c = true := by simpa using hcs
        have hne : c ≠ p := by
          rintro rfl
          rw [isWordChar_of_isWordEnd (isWordEnd_of_isBreak hc)] at hp
          cases hp
        simp [phraseLength, upperChar_of_isBreak hc, hne] at h
    | cons c w =>
      by_cases hu : upperChar c = [p]
      · simp only [List.cons_append, phraseLength, hu, if_true] at h
        obtain ⟨k, hk, rfl⟩ := Option.map_eq_some_iff.mp h
        rw [List.cons_append, List.drop_succ_cons] at hend
        obtain ⟨hupper, m, rfl, hm⟩ := ih (fun q hq => hfront q (List.mem_cons_of_mem _ hq))
          (fun d hd => hw d (List.mem_cons_of_mem _ hd)) hk hend
        refine ⟨?_, m, ?_, hm⟩
        · rw [upperChars, List.flatMap_cons, hu, ← upperChars, hupper]
          rfl
        · rw [List.length_cons]
          omega
      · simp [phraseLength, hu] at h

/-- The first word of a phrase. -/
def phraseFront (phrase : String) : List Char :=
  phrase.toList.takeWhile (· ≠ ' ')

/-- A phrase without its first word. -/
def phraseTail (phrase : String) : List Char :=
  (phrase.toList.dropWhile (· ≠ ' ')).tail

/-- Behind the word the text goes on neither with it nor with the rest of a phrase. -/
structure BreaksAfter (w cs : List Char) : Prop where
  head : cs.head?.all isBreak = true
  phrase : ∀ k ∈ phraseKeywords, phraseFront k.1 = upperChars w →
    ∀ n, phraseLength (' ' :: phraseTail k.1) cs = some n →
      (cs.drop n).head?.all isWordEnd = false

theorem phraseHere?_word {w cs : List Char} (hw : ∀ c ∈ w, isWordChar c = true)
    (hbreak : BreaksAfter w cs) : phraseHere? (w ++ cs) = none := by
  have hparts : ∀ k ∈ phraseKeywords, k.1.toList = phraseFront k.1 ++ ' ' :: phraseTail k.1 ∧
      (phraseFront k.1).all isWordChar = true := by decide +kernel
  refine List.findSome?_eq_none_iff.mpr fun k hk => ?_
  obtain ⟨hsplit, hfront⟩ := hparts k hk
  cases hlength : phraseLength k.1.toList (w ++ cs) with
  | none => simp only [hlength]
  | some n =>
    simp only [hlength]
    refine if_neg fun hend => ?_
    rw [hsplit] at hlength
    obtain ⟨hupper, m, rfl, hm⟩ := phraseLength_word (List.all_eq_true.mp hfront) rfl hw
      hbreak.head hlength hend
    rw [List.drop_append, List.drop_eq_nil_of_le (Nat.le_add_right _ _), List.nil_append,
      Nat.add_sub_cancel_left, hbreak.phrase k hk hupper.symm m hm] at hend
    cases hend

/-- The text goes on with no word and no phrase, whatever the word before it. -/
structure Breaks (cs : List Char) : Prop where
  head : cs.head?.all isBreak = true
  phrase : ∀ k ∈ phraseKeywords, phraseLength (' ' :: phraseTail k.1) cs = none

theorem Breaks.after {cs : List Char} (h : Breaks cs) (w : List Char) : BreaksAfter w cs :=
  ⟨h.head, fun k hk _ n hn => by simp [h.phrase k hk] at hn⟩

theorem breaks_nil : Breaks [] :=
  ⟨rfl, by decide⟩

theorem breaks_symbol {c : Char} (hc : c ∈ [',', '(', ')', '.']) (cs : List Char) :
    Breaks (c :: cs) := by
  have hall : ∀ d ∈ [',', '(', ')', '.'], isBreak d = true ∧ isBlank d = false :=
    forall_mem_of_all (by decide)
  obtain ⟨hb, hblank⟩ := hall c hc
  exact ⟨by simpa using hb, fun k _ => by simp [phraseLength, hblank]⟩

/-- Whether a text departs from a phrase before either of them ends. -/
def departs : List Char → List Char → Bool
  | ' ' :: _, c :: _ => !isBlank c
  | p :: ps, c :: cs => upperChar c ≠ [p] || departs ps cs
  | _, _ => false

theorem phraseLength_of_departs {ps x : List Char} (h : departs ps x = true) (cs : List Char) :
    phraseLength ps (x ++ cs) = none := by
  fun_induction departs ps x with
  | case1 ps c x => simp_all [phraseLength]
  | case2 p ps c x hp ih =>
    by_cases hu : upperChar c = [p]
    · simp [phraseLength, hu, ih (by simpa [hu] using h)]
    · simp [phraseLength, hu]
  | case3 ps x => simp at h

theorem phraseLength_space {cs : List Char} (h : cs.head?.any (!isBlank ·) = true) (ps : List Char) :
    phraseLength (' ' :: ps) (' ' :: cs) = (phraseLength ps cs).map (· + 1) := by
  cases cs with
  | nil => simp at h
  | cons c cs =>
    have hblank : isBlank c = false := by simpa using h
    have hspace : isBlank ' ' = true := by decide
    simp [phraseLength, hblank, hspace]

/-- A blank and a word with which no phrase goes on. -/
theorem breaks_space {x : List Char} (hx : x.head?.any (!isBlank ·) = true)
    (h : ∀ k ∈ phraseKeywords, departs (phraseTail k.1) x = true) (cs : List Char) :
    Breaks (' ' :: (x ++ cs)) := by
  refine ⟨rfl, fun k hk => ?_⟩
  have hhead : (x ++ cs).head?.any (!isBlank ·) = true := by
    cases x with
    | nil => simp at hx
    | cons c x => exact hx
  rw [phraseLength_space hhead, phraseLength_of_departs (h k hk) cs]
  rfl

theorem wordPiece_word {c : Char} {w cs : List Char} (hw : ∀ d ∈ w, isWordChar d = true)
    (hcs : cs.head?.all isBreak = true) : wordPiece (c :: (w ++ cs)) =
      (.token (wordLexeme (String.ofList (c :: w))).kind (wordLexeme (String.ofList (c :: w))).text
        (wordLexeme (String.ofList (c :: w))).name, w.length + 1) := by
  have htake : (w ++ cs).takeWhile (fun d => !isWordEnd d) = w := by
    rw [List.takeWhile_append_of_pos fun d hd => by simp [isWordEnd_of_isWordChar (hw d hd)]]
    cases cs with
    | nil => simp
    | cons d cs => simp [isWordEnd_of_isBreak (by simpa using hcs)]
  unfold wordPiece wordLexeme
  simp only [List.take_succ_cons, List.take_zero, List.drop_succ_cons, List.drop_zero, htake,
    List.singleton_append, List.length_cons]
  cases keywordName? (toUpperText (String.ofList (c :: w))) <;> rfl

/-- No symbol of several characters starts with another character than a symbol. -/
theorem longSymbols_none {c : Char} (h : isSymbolChar c = false) (cs : List Char) :
    longSymbols.find? (fun sym => sym.toList.isPrefixOf (c :: cs)) = none := by
  have hheads : ∀ sym ∈ longSymbols, sym.toList.head?.any isSymbolChar = true := by decide
  refine List.find?_eq_none.mpr fun sym hsym hp => ?_
  have hd := hheads sym hsym
  cases hl : sym.toList with
  | nil => simp [hl] at hd
  | cons d rest =>
    simp only [hl, List.isPrefixOf, Bool.and_eq_true, beq_iff_eq] at hp
    simp [hl, hp.1, h] at hd

/-- No mark stands in front of a string here, since no string starts behind the first character. -/
theorem markName?_none {w cs : List Char} (hw : ∀ c ∈ w, isWordChar c = true)
    (hcs : cs.head?.all isBreak = true) (c : Char) :
    (w ++ cs).head?.bind (fun q => (markName? c q).map (fun name => (name, q))) = none := by
  have hnext : ∀ q, isWordChar q = true ∨ isBreak q = true → markName? c q = none := by
    intro q hq
    have hne : q ≠ '\'' ∧ q ≠ '"' := by
      constructor
      · rintro rfl
        revert hq
        decide
      · rintro rfl
        revert hq
        decide
    simp [markName?, hne]
  cases w with
  | cons d w => simp [hnext d (.inl (hw d List.mem_cons_self))]
  | nil =>
    cases cs with
    | nil => rfl
    | cons d cs => simp [hnext d (.inr (by simpa using hcs))]

theorem scan_plain {c : Char} {cs : List Char} (hblank : isBlank c = false)
    (hdigit : isDigitChar c = false) (hnot : c ∉ ['\x60', '\'', '"', '-', '/'])
    (hmark : cs.head?.bind (fun q => (markName? c q).map (fun name => (name, q))) = none)
    (afterSelect : Bool) : scan afterSelect (c :: cs) = .ok (plainPiece (c :: cs)) := by
  simp only [List.mem_cons, List.not_mem_nil, or_false, not_or] at hnot
  obtain ⟨hback, hquote, hdouble, hdash, hslash⟩ := hnot
  have hdash' : '-' ≠ c := fun h => hdash h.symm
  have hslash' : '/' ≠ c := fun h => hslash h.symm
  unfold scan
  simp [hblank, hdigit, hback, hquote, hdouble, hdash', hslash', hmark]

theorem scan_word {w cs : List Char} (hstart : w.head?.any isNameStart = true)
    (hw : ∀ c ∈ w, isWordChar c = true) (hbreak : BreaksAfter w cs) (afterSelect : Bool) :
    scan afterSelect (w ++ cs) =
      .ok (.token (wordLexeme (String.ofList w)).kind (wordLexeme (String.ofList w)).text
        (wordLexeme (String.ofList w)).name, w.length) := by
  have hphrase := phraseHere?_word hw hbreak
  cases w with
  | nil => simp at hstart
  | cons c w =>
    have hrest : ∀ d ∈ w, isWordChar d = true := fun d hd => hw d (List.mem_cons_of_mem _ hd)
    have hc : IsWordStart c := .of_isNameStart (by simpa using hstart)
    have hsymbol : isSymbolChar c = false :=
      ((Bool.or_eq_false_iff).mp (isWordEnd_of_isWordChar hc.word)).2
    have hplain : plainPiece (c :: (w ++ cs)) = wordPiece (c :: (w ++ cs)) := by
      unfold plainPiece
      rw [List.cons_append] at hphrase
      rw [hphrase, longSymbols_none hsymbol]
      have hbang : c ≠ '!' := by
        rintro rfl
        revert hsymbol
        decide
      simp only [List.head?_cons]
      split
      · exact absurd (by simp_all) hbang
      · simp_all
    rw [List.cons_append, scan_plain (isBlank_of_isWordChar hc.word) hc.digit hc.quote
      (markName?_none hrest hbreak.head c), hplain, wordPiece_word hrest hbreak.head]
    rfl

theorem Lexes.word {w cs : List Char} {ts : List Token} (hstart : w.head?.any isNameStart = true)
    (hw : ∀ c ∈ w, isWordChar c = true) (hwithin : endsStatement (wordLexeme (String.ofList w)) = false)
    (hbreak : BreaksAfter w cs) (h : Lexes cs ts) :
    Lexes (w ++ cs) (wordLexeme (String.ofList w) :: ts) := by
  refine .token ?_ (scan_word hstart hw hbreak) ?_ hwithin h
  · rintro rfl
    simp at hstart
  · unfold wordLexeme
    cases keywordName? (toUpperText (String.ofList w)) <;> rfl

/-! Symbols, texts and numbers. -/

def symbolStarts : List Char :=
  [',', '(', ')', '.', '*', '=', '<', '>']

theorem scan_symbol {c : Char} (hc : c ∈ symbolStarts) (cs : List Char) (afterSelect : Bool) :
    scan afterSelect (c :: cs) =
      .ok (match longSymbols.find? (fun sym => sym.toList.isPrefixOf (c :: cs)) with
        | some sym => (.token .symbol sym (symbolName sym), sym.toList.length)
        | none => (.token .symbol (String.singleton c) (symbolName (String.singleton c)), 1)) := by
  have hall : ∀ d ∈ symbolStarts, isBlank d = false ∧ isDigitChar d = false ∧ isSymbolChar d = true ∧
      d ∉ ['\x60', '\'', '"', '-', '/'] ∧ d ∉ ['!', 'r', 'R', 'x', 'X', 'n', 'N'] ∧
      ∀ k ∈ phraseKeywords, departs k.1.toList [d] = true := forall_mem_of_all (by decide +kernel)
  obtain ⟨hblank, hdigit, hsymbol, hquote, hletter, hphrase⟩ := hall c hc
  simp only [List.mem_cons, List.not_mem_nil, or_false, not_or] at hletter
  have hmark : cs.head?.bind (fun q => (markName? c q).map (fun name => (name, q))) = none := by
    cases cs with
    | nil => rfl
    | cons q cs => simp [markName?, hletter]
  have hhere : phraseHere? (c :: cs) = none := by
    refine List.findSome?_eq_none_iff.mpr fun k hk => ?_
    have hdeparts := phraseLength_of_departs (hphrase k hk) cs
    rw [List.singleton_append] at hdeparts
    simp only [hdeparts]
  rw [scan_plain hblank hdigit hquote hmark]
  unfold plainPiece
  rw [hhere]
  cases longSymbols.find? (fun sym => sym.toList.isPrefixOf (c :: cs)) <;> simp [hletter, hsymbol]

theorem scan_mark {c : Char} (hc : c ∈ [',', '(', ')', '.', '*']) (cs : List Char) (afterSelect : Bool) :
    scan afterSelect (c :: cs) = .ok (.token .symbol (String.singleton c) (String.singleton c), 1) := by
  have hall : ∀ d ∈ [',', '(', ')', '.', '*'], d ∈ symbolStarts ∧
      symbolName (String.singleton d) = String.singleton d ∧
      ∀ sym ∈ longSymbols, sym.toList ≠ [] ∧ sym.toList.head? ≠ some d :=
    forall_mem_of_all (by decide +kernel)
  obtain ⟨hstart, hname, hheads⟩ := hall c hc
  have hlong : longSymbols.find? (fun sym => sym.toList.isPrefixOf (c :: cs)) = none := by
    refine List.find?_eq_none.mpr fun sym hsym hp => ?_
    obtain ⟨hne, hhead⟩ := hheads sym hsym
    cases hl : sym.toList with
    | nil => exact hne hl
    | cons d rest => simp_all [List.isPrefixOf]
  rw [scan_symbol hstart, hlong, hname]

theorem Lexes.symbol {c : Char} (hc : c ∈ [',', '(', ')', '.', '*']) {cs : List Char}
    {ts : List Token} (h : Lexes cs ts) : Lexes (c :: cs) (symbolToken (String.singleton c) :: ts) := by
  have hwithin : ∀ c ∈ [',', '(', ')', '.', '*'], endsStatement (symbolToken (String.singleton c)) = false :=
    forall_mem_of_all (by decide)
  change Lexes ([c] ++ cs) _
  exact .token (by simp) (scan_mark hc cs) rfl (hwithin c hc) h

theorem Lexes.comparison (how : Comparison) {cs : List Char} {ts : List Token}
    (h : Lexes (' ' :: cs) ts) :
    Lexes (how.label.toList ++ ' ' :: cs) (symbolToken how.label :: ts) := by
  refine .token (by cases how <;> decide) (fun afterSelect => ?_) rfl (by cases how <;> rfl) h
  cases how <;> simp only [Comparison.label] <;>
    exact (scan_symbol (by decide) _ _).trans (by simp [longSymbols, List.find?, List.isPrefixOf]; rfl)

def isOctalDigit (c : Char) : Bool :=
  '0' ≤ c && c ≤ '7'

/-- Whether a zero character stands before two octal digits, with which it is read as one character. -/
def hasOctalTail : List Char → Bool
  | '\x00' :: a :: b :: cs => (isOctalDigit a && isOctalDigit b) || hasOctalTail (a :: b :: cs)
  | _ :: cs => hasOctalTail cs
  | [] => false

/-- What is read where a value is written as a literal: a zero character with two octal digits behind it is
read as the character that these number. -/
def rereadChars : List Char → List Char
  | '\x00' :: a :: b :: cs =>
    if isOctalDigit a && isOctalDigit b then Char.ofNat (digitValue a * 8 + digitValue b) :: rereadChars cs
    else '\x00' :: rereadChars (a :: b :: cs)
  | c :: cs => c :: rereadChars cs
  | [] => []

def rereadValue (value : String) : String :=
  String.ofList (rereadChars value.toList)

/-- Characters that have an escape in a literal. -/
def escapedChars : List Char :=
  ['\'', '\\', '\n', '\t', '\r', '\x08', '\x07', '\x0b', '\x0c', '\x00']

theorem literalCharOf_plain {c : Char} (h : c ∉ escapedChars) : literalCharOf c = [c] := by
  simp only [escapedChars, List.mem_cons, List.not_mem_nil, or_false, not_or] at h
  simp [literalCharOf, h]

theorem literalCharOf_escaped {c : Char} (h : c ∈ escapedChars) :
    ∃ escape, literalCharOf c = '\\' :: escape := by
  have hall : ∀ d ∈ escapedChars, (literalCharOf d).head? = some '\\' :=
    forall_mem_of_all (by decide)
  exact List.head?_eq_some_iff.mp (hall c h)

/-- The characters of a literal up to its closing quote start with an octal digit only where the value
does. -/
theorem literal_head_octal {value cs rest : List Char} {c : Char}
    (h : value.flatMap literalCharOf ++ '\'' :: cs = c :: rest) (hc : isOctalDigit c = true) :
    ∃ value', value = c :: value' ∧ rest = value'.flatMap literalCharOf ++ '\'' :: cs := by
  cases value with
  | nil =>
    obtain ⟨rfl, -⟩ := List.cons.inj h
    exact absurd hc (by decide)
  | cons d value =>
    rw [List.flatMap_cons, List.append_assoc] at h
    by_cases hd : d ∈ escapedChars
    · obtain ⟨escape, he⟩ := literalCharOf_escaped hd
      rw [he] at h
      obtain ⟨rfl, -⟩ := List.cons.inj h
      exact absurd hc (by decide)
    · rw [literalCharOf_plain hd] at h
      obtain ⟨rfl, hrest⟩ := List.cons.inj h
      exact ⟨value, rfl, hrest.symm⟩

theorem unescape_single {a : Char} {rest : List Char}
    (h : ∀ b c more, rest = b :: c :: more → isOctalDigit a = true → isOctalDigit b = true →
      isOctalDigit c = false) : unescape (a :: rest) = unescape.single a := by
  match rest with
  | [] => rfl
  | [b] => rfl
  | b :: c :: more =>
    refine if_neg fun hall => ?_
    replace hall : (isOctalDigit a && isOctalDigit b && isOctalDigit c && a ≤ '3') = true := hall
    simp only [Bool.and_eq_true] at hall
    obtain ⟨⟨⟨ha, hb⟩, hc⟩, -⟩ := hall
    exact Bool.false_ne_true ((h b c more rfl ha hb).symm.trans hc)

/-- An escape stands for its character; that of a zero only where no two octal digits follow. -/
theorem unescape_escape {c : Char} {value : List Char} (cs : List Char) (hc : c ∈ escapedChars)
    (hoctal : ∀ a b rest, c = '\x00' → value = a :: b :: rest → (isOctalDigit a && isOctalDigit b) = false) :
    ∃ escape, literalCharOf c = '\\' :: escape ∧
      unescape (escape ++ (value.flatMap literalCharOf ++ '\'' :: cs)) = some ([c], escape.length) := by
  have hsingle : ∀ {d : Char} {rest : List Char}, isOctalDigit d = false →
      unescape (d :: rest) = unescape.single d := fun hd =>
    unescape_single fun _ _ _ _ h => absurd h (by simp [hd])
  simp only [escapedChars, List.mem_cons, List.not_mem_nil, or_false] at hc
  rcases hc with rfl | rfl | rfl | rfl | rfl | rfl | rfl | rfl | rfl | rfl
  · exact ⟨_, rfl, hsingle (by decide)⟩
  · exact ⟨_, rfl, hsingle (by decide)⟩
  · exact ⟨_, rfl, hsingle (by decide)⟩
  · exact ⟨_, rfl, hsingle (by decide)⟩
  · exact ⟨_, rfl, hsingle (by decide)⟩
  · exact ⟨_, rfl, hsingle (by decide)⟩
  · exact ⟨_, rfl, rfl⟩
  · exact ⟨_, rfl, rfl⟩
  · exact ⟨_, rfl, rfl⟩
  · refine ⟨_, rfl, unescape_single fun b d more hrest _ hb => Bool.eq_false_iff.mpr fun hd => ?_⟩
    obtain ⟨value, rfl, hmore⟩ := literal_head_octal hrest hb
    obtain ⟨value, rfl, -⟩ := literal_head_octal hmore.symm hd
    exact absurd (hoctal b d _ rfl rfl) (by simp [hb, hd])

theorem hasOctalTail_tail {c : Char} {cs : List Char} (h : hasOctalTail (c :: cs) = false) :
    hasOctalTail cs = false := by
  unfold hasOctalTail at h
  split at h
  · rename_i hsplit
    obtain ⟨-, rfl⟩ := List.cons.inj hsplit
    exact (Bool.or_eq_false_iff.mp h).2
  · simp_all
  · simp_all

theorem rereadChars_eq_self {value : List Char} (h : hasOctalTail value = false) : rereadChars value = value := by
  fun_induction rereadChars value with
  | case1 a b cs hboth ih => simp [hasOctalTail, hboth] at h
  | case2 a b cs hnot ih => rw [ih (hasOctalTail_tail h)]
  | case3 c cs hno ih => rw [ih (hasOctalTail_tail h)]
  | case4 => rfl

theorem literalCharOf_octal {c : Char} (h : isOctalDigit c = true) : literalCharOf c = [c] := by
  have hall : ∀ d ∈ escapedChars, isOctalDigit d = false := forall_mem_of_all (by decide)
  refine literalCharOf_plain fun hc => ?_
  rw [hall c hc] at h
  cases h

theorem readQuoted_octal {a b : Char} (ha : isOctalDigit a = true) (hb : isOctalDigit b = true) (n : Nat)
    (cs : List Char) : readQuoted '\'' true (n + 1) ('\\' :: '0' :: a :: b :: cs) =
      (readQuoted '\'' true n cs).map fun (s, rest) =>
        (Char.ofNat (digitValue a * 8 + digitValue b) :: s, rest) := by
  have hoctal : (isOctalDigit '0' && isOctalDigit a && isOctalDigit b && decide ('0' ≤ '3')) = true := by
    rw [ha, hb]
    decide
  have hzero : digitValue '0' = 0 := by decide
  have hread : unescape ('0' :: a :: b :: cs) =
      some ([Char.ofNat (digitValue a * 8 + digitValue b)], 3) := by
    refine (if_pos hoctal).trans ?_
    simp only [hzero, Nat.zero_mul, Nat.zero_add]
  simp [readQuoted, hread]

theorem readQuoted_char {c : Char} {value : List Char} (cs : List Char) (n : Nat)
    (hoctal : ∀ a b rest, c = '\x00' → value = a :: b :: rest → (isOctalDigit a && isOctalDigit b) = false) :
    readQuoted '\'' true (n + 1) (literalCharOf c ++ (value.flatMap literalCharOf ++ '\'' :: cs)) =
      (readQuoted '\'' true n (value.flatMap literalCharOf ++ '\'' :: cs)).map fun (s, rest) =>
        (c :: s, rest) := by
  by_cases hc : c ∈ escapedChars
  · obtain ⟨escape, hescape, hread⟩ := unescape_escape cs hc hoctal
    rw [hescape, List.cons_append]
    simp [readQuoted, hread]
  · have hne : c ≠ '\'' ∧ c ≠ '\\' := by
      simp only [escapedChars, List.mem_cons, not_or] at hc
      exact ⟨hc.1, hc.2.1⟩
    rw [literalCharOf_plain hc, List.singleton_append]
    simp [readQuoted, hne]

theorem literalCharOf_length (c : Char) : 0 < (literalCharOf c).length := by
  by_cases hc : c ∈ escapedChars
  · obtain ⟨escape, hescape⟩ := literalCharOf_escaped hc
    simp [hescape]
  · simp [literalCharOf_plain hc]

theorem readQuoted_literal (value : List Char) {cs : List Char} (hcs : cs.head? ≠ some '\'') {n : Nat}
    (hfuel : (value.flatMap literalCharOf).length < n) :
    readQuoted '\'' true n (value.flatMap literalCharOf ++ '\'' :: cs) = some (rereadChars value, cs) := by
  obtain ⟨n, rfl⟩ : ∃ k, n = k + 1 := ⟨n - 1, by omega⟩
  fun_induction rereadChars value generalizing n with
  | case1 a b value hboth ih =>
    obtain ⟨ha, hb⟩ := (Bool.and_eq_true _ _).mp hboth
    have hcodes : ('\x00' :: a :: b :: value).flatMap literalCharOf =
        '\\' :: '0' :: a :: b :: value.flatMap literalCharOf := by
      rw [List.flatMap_cons, List.flatMap_cons, List.flatMap_cons, literalCharOf_octal ha, literalCharOf_octal hb]
      rfl
    rw [hcodes] at hfuel ⊢
    simp only [List.length_cons] at hfuel
    obtain ⟨n, rfl⟩ : ∃ k, n = k + 1 := ⟨n - 1, by omega⟩
    simp only [List.cons_append]
    rw [readQuoted_octal ha hb, ih n (by omega)]
    rfl
  | case2 a b value hnot ih =>
    have hpos := literalCharOf_length '\x00'
    rw [List.flatMap_cons, List.length_append] at hfuel
    obtain ⟨n, rfl⟩ : ∃ k, n = k + 1 := ⟨n - 1, by omega⟩
    rw [List.flatMap_cons, List.append_assoc, readQuoted_char cs _ (fun a' b' rest _ h => ?_), ih n (by omega)]
    · rfl
    · obtain ⟨rfl, rfl, -⟩ : a = a' ∧ b = b' ∧ value = rest := by simpa using h
      exact Bool.eq_false_iff.mpr hnot
  | case3 c value hno ih =>
    have hpos := literalCharOf_length c
    rw [List.flatMap_cons, List.length_append] at hfuel
    obtain ⟨n, rfl⟩ : ∃ k, n = k + 1 := ⟨n - 1, by omega⟩
    rw [List.flatMap_cons, List.append_assoc, readQuoted_char cs _ (fun a b rest hc h => (hno a b rest hc h).elim),
      ih n (by omega)]
    rfl
  | case4 =>
    cases cs with
    | nil => rfl
    | cons d cs =>
      have hd : d ≠ '\'' := by simpa using hcs
      simp [readQuoted, hd]

theorem Lexes.text (value : String) {cs : List Char} {ts : List Token} (hcs : cs.head? ≠ some '\'')
    (h : Lexes cs ts) : Lexes (stringLiteral value ++ cs) (textToken (rereadValue value) :: ts) := by
  refine .token (by simp [stringLiteral]) (fun afterSelect => ?_) rfl rfl h
  have hread := readQuoted_literal value.toList hcs
    (n := (value.toList.flatMap literalCharOf ++ '\'' :: cs).length + 1) (by
      rw [List.length_append]
      omega)
  have hblank : isBlank '\'' = false := by decide
  have hdigit : isDigitChar '\'' = false := by decide
  simp only [stringLiteral, List.cons_append, List.append_assoc, List.nil_append,
    scan, hblank, hdigit, quotedPiece, List.drop_succ_cons, List.drop_zero, hread]
  simp [textToken, rereadValue]
  omega

theorem readQuoted_backticks (name : List Char) {cs : List Char} (hcs : cs.head? ≠ some '\x60') {n : Nat}
    (hfuel : (doubleBackticks name).length < n) :
    readQuoted '\x60' false n (doubleBackticks name ++ '\x60' :: cs) = some (name, cs) := by
  induction name generalizing n with
  | nil =>
    obtain ⟨n, rfl⟩ : ∃ k, n = k + 1 := ⟨n - 1, by omega⟩
    cases cs with
    | nil => rfl
    | cons d cs =>
      have hd : d ≠ '\x60' := by simpa using hcs
      simp [doubleBackticks, readQuoted, hd]
  | cons c name ih =>
    obtain ⟨n, rfl⟩ : ∃ k, n = k + 1 := ⟨n - 1, by omega⟩
    by_cases hc : c = '\x60'
    · simp only [doubleBackticks, hc, if_true, List.length_cons] at hfuel
      simp [doubleBackticks, readQuoted, hc, ih (n := n) (by omega)]
    · simp only [doubleBackticks, hc, if_false, List.length_cons] at hfuel
      simp [doubleBackticks, readQuoted, hc, ih (n := n) (by omega)]

theorem scan_quoted (name : String) {cs : List Char} (hcs : cs.head? ≠ some '\x60') (afterSelect : Bool) :
    scan afterSelect (backtickQuoted name.toList ++ cs) =
      .ok (.token .quoted name "", (backtickQuoted name.toList).length) := by
  have hread := readQuoted_backticks name.toList hcs
    (n := (doubleBackticks name.toList ++ '\x60' :: cs).length + 1) (by
      rw [List.length_append]
      omega)
  have hblank : isBlank '\x60' = false := by decide
  have hdigit : isDigitChar '\x60' = false := by decide
  simp only [backtickQuoted, List.cons_append, List.append_assoc, List.nil_append, scan, hblank, hdigit,
    quotedPiece, List.drop_succ_cons, List.drop_zero, hread]
  simp
  omega

theorem Lexes.quoted {name : String} {cs : List Char} {ts : List Token}
    (hcs : cs.head? ≠ some '\x60') (h : Lexes cs ts) :
    Lexes (backtickQuoted name.toList ++ cs) (⟨.quoted, name, "", false⟩ :: ts) :=
  .token (by simp [backtickQuoted]) (scan_quoted name hcs) rfl rfl h

theorem numberLength_digits {ds : List Char} (h : ∀ c ∈ ds, isDigitChar c = true) (point mark sign : Bool) :
    numberLength point mark sign ds = ds.length := by
  induction ds with
  | nil => rfl
  | cons c ds ih =>
    simp [numberLength, h c List.mem_cons_self, ih fun d hd => h d (List.mem_cons_of_mem _ hd),
      Nat.add_comm]

theorem isDigitChar_of_isDigit {c : Char} (h : c.isDigit = true) :
    isDigitChar c = true ∧ isBlank c = false := by
  have hbound : 48 ≤ c.toNat ∧ c.toNat < 58 := by
    simp only [Char.isDigit, Bool.and_eq_true, decide_eq_true_eq] at h
    exact ⟨UInt32.le_iff_toNat_le.mp h.1, Nat.lt_succ_of_le (UInt32.le_iff_toNat_le.mp h.2)⟩
  have hall : ∀ n < 58, 48 ≤ n → isDigitChar (Char.ofNat n) = true ∧ isBlank (Char.ofNat n) = false := by
    decide +kernel
  have hc := hall c.toNat hbound.2 hbound.1
  rwa [Char.ofNat_toNat] at hc

theorem scan_digits (n : Nat) (afterSelect : Bool) : scan afterSelect (Nat.toDigits 10 n) =
    .ok (.token .number (String.ofList (Nat.toDigits 10 n)) "", (Nat.toDigits 10 n).length) := by
  have hdigits : ∀ c ∈ Nat.toDigits 10 n, isDigitChar c = true ∧ isBlank c = false := fun c hc =>
    isDigitChar_of_isDigit (Nat.isDigit_of_mem_toDigits (by decide) (by decide) hc)
  cases hds : Nat.toDigits 10 n with
  | nil => exact absurd hds Nat.toDigits_ne_nil
  | cons c ds =>
    rw [hds] at hdigits
    obtain ⟨hdigit, hblank⟩ := hdigits c List.mem_cons_self
    have hlength : 1 + ds.length = (c :: ds).length := Nat.add_comm _ _
    rw [scan, hblank, hdigit]
    simp [numberPiece, numberLength_digits fun d hd => (hdigits d (List.mem_cons_of_mem _ hd)).1,
      hlength]

/-- A number that ends the text. -/
theorem Lexes.number (n : Nat) :
    Lexes (Nat.toDigits 10 n) [numberToken (String.ofList (Nat.toDigits 10 n))] := by
  have hlexes := Lexes.token (t := numberToken (String.ofList (Nat.toDigits 10 n))) Nat.toDigits_ne_nil
    (fun afterSelect => (congrArg _ (List.append_nil _)).trans (scan_digits n afterSelect)) rfl rfl .nil
  rwa [List.append_nil] at hlexes

end QueryGate
