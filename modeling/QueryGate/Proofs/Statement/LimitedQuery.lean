import Mathlib.Data.List.Infix
import QueryGate.Proofs.Query.ReadBack
import QueryGate.Proofs.Sql.Stepping
import QueryGate.Proofs.Statement.Accepted
import QueryGate.Proofs.Statement.FirstSource
/-! How a statement is read with a limit behind it. Its own tokens are what they were, so that it is accepted just if its
last statement is, with the tokens of the limit behind it. -/

namespace QueryGate

/-! The limit behind a statement. -/

/-- No phrase goes on with a limit. -/
theorem phraseLength_limit {k : String × String} (hk : k ∈ phraseKeywords) {more : List Char}
    (hmore : more <:+ k.1.toList) (hne : more ≠ []) {gap : Char} (hgap : isBlank gap = true) (cs : List Char) :
    phraseLength more (gap :: (limitWord ++ cs)) = none := by
  have hdeparts : ∀ k ∈ phraseKeywords, ∀ ps ∈ k.1.toList.tails, ps ≠ [] → departs ps limitWord = true := by
    decide +kernel
  have hphrase := (isPhrase_of_mem hk).suffix hmore
  obtain ⟨c, ps, rfl⟩ := List.exists_cons_of_ne_nil hne
  by_cases hc : c = ' '
  · subst hc
    have hps : ps ≠ [] := by
      rintro rfl
      exact absurd hphrase.last (by decide)
    have hnone := phraseLength_of_departs
      (hdeparts k hk ps ((List.mem_tails _ _).mpr ((List.suffix_cons _ ps).trans hmore)) hps) cs
    have hblanks : ((gap :: (limitWord ++ cs)).takeWhile isBlank).length = 1 := by
      have hletter : isBlank 'L' = false := by decide
      simp [limitWord, hgap, hletter]
    simp only [phraseLength, hblanks, List.drop_succ_cons, List.drop_zero, hnone]
    rfl
  · obtain rfl | ⟨hletter, hpos, hbound⟩ := hphrase.letters c List.mem_cons_self
    · exact absurd rfl hc
    · have hupper := upperChar_ne_of_partsLexemes (d := gap) (by simp [partsLexemes, hgap]) hletter hpos hbound
      rw [phraseLength, if_neg hupper]
      exact hc

theorem seam_limit {p : List Char} (hp : p ≠ []) (htight : Tight p) {gap : Char} (hgap : isBlank gap = true) (cs : List Char) :
    Seam p (gap :: (limitWord ++ cs)) :=
  .of_phrases hp htight (by simp [Parted, partsLexemes, hgap]) fun _ _ _ hk c more hmore hne _ =>
    phraseLength_limit hk ((List.suffix_cons c more).trans hmore) hne hgap cs

/-- The limit in front of its semicolon, behind a gap. -/
theorem LexState.reaches_limit {s : LexState} (cap : Nat) {gap : Char} (hgap : gap ∈ [' ', '\n'])
    (hs : s.rest = gap :: (limitClause cap ++ [';'])) : ∃ t, s.Reaches t ∧ t.rest = [] ∧
      t.tokens = symbolToken ";" :: numberToken (String.ofList (Nat.toDigits 10 cap)) ::
        { keywordToken "LIMIT" with noted := s.pending } :: s.tokens ∧ t.pending = false := by
  have hblanks : ∀ gap ∈ [' ', '\n'], isBlank gap = true := forall_mem_of_all (by decide)
  have hfronts : ∀ k ∈ phraseKeywords, phraseFront k.1 ≠ upperChars limitWord := by decide +kernel
  have hword : ∀ cs afterSelect, scan afterSelect (limitWord ++ ' ' :: cs) =
      .ok (.token .keyword "LIMIT" "LIMIT", limitWord.length) := fun cs afterSelect =>
    scan_word (by decide) (forall_mem_of_all (by decide +kernel))
      ⟨rfl, fun k hk hfront => absurd hfront (hfronts k hk)⟩ afterSelect
  have hdigits : ∀ c ∈ Nat.toDigits 10 cap, c.isDigit = true := fun c hc =>
    Nat.isDigit_of_mem_toDigits (by decide) (by decide) hc
  have hnumber : ∀ afterSelect, scan afterSelect (Nat.toDigits 10 cap ++ [';']) =
      .ok (.token .number (String.ofList (Nat.toDigits 10 cap)) "", (Nat.toDigits 10 cap).length) := by
    intro afterSelect
    obtain ⟨c, ds, hsplit⟩ := List.exists_cons_of_ne_nil (Nat.toDigits_ne_nil (n := cap) (b := 10))
    rw [← scan_digits cap afterSelect, hsplit]
    exact (parted_semicolon []).scan_digit_append
      (isDigitChar_of_isDigit (hdigits c (hsplit ▸ List.mem_cons_self))).1 ds _
  have hline : ∀ c ∈ Nat.toDigits 10 cap, c ≠ '\n' ∧ c ≠ '\r' := by
    refine fun c hc => ⟨?_, ?_⟩ <;>
    · rintro rfl
      exact Bool.false_ne_true (hdigits _ hc)
  have hcap : (intText (cap : Int)).toList = Nat.toDigits 10 cap := by
    rw [intText, if_neg (by omega)]
    exact String.toList_ofList
  rw [limitClause, hcap] at hs
  have hgapped : s.rest = [gap] ++ (limitWord ++ ' ' :: (Nat.toDigits 10 cap ++ [';'])) := by
    simpa using hs
  obtain ⟨t, ht, htrest, httokens, htpending⟩ := reaches_blanks (by simpa using hblanks gap hgap) (by simp [limitWord]) hgapped
  have hlimit := reaches_token (by decide) (forall_mem_of_all (by decide)) (hword _) (fun h => absurd h (by decide)) htrest
  have hspace := hlimit.trans (reaches_space rfl)
  have hcount := hspace.trans (reaches_token Nat.toDigits_ne_nil hline hnumber (fun h => absurd h Bool.false_ne_true) rfl)
  have hread := ht.trans (hcount.trans (reaches_semicolon (y := []) rfl rfl))
  exact ⟨_, hread, rfl, by rw [← httokens, ← htpending]; rfl, rfl⟩

/-- Blanks behind a statement, with at most one semicolon among them. -/
def IsClosing (x : List Char) : Prop :=
  (∀ c ∈ x, isBlank c = true) ∨
    ∃ front back, x = front ++ ';' :: back ∧ (∀ c ∈ front, isBlank c = true) ∧ ∀ c ∈ back, isBlank c = true

theorem IsClosing.drop {x : List Char} (h : IsClosing x) (k : Nat) : IsClosing (x.drop k) := by
  rcases h with hblank | ⟨front, back, rfl, hfront, hback⟩
  · exact .inl fun c hc => hblank c (List.mem_of_mem_drop hc)
  · rw [List.drop_append]
    cases hk : k - front.length with
    | zero =>
      exact .inr ⟨front.drop k, back, by simp, fun c hc => hfront c (List.mem_of_mem_drop hc), hback⟩
    | succ j =>
      refine .inl fun c hc => ?_
      rcases List.mem_append.mp hc with hc | hc
      · exact hfront c (List.mem_of_mem_drop hc)
      · exact hback c (List.mem_of_mem_drop (i := j) hc)

theorem IsClosing.parting {x : List Char} (h : IsClosing x) : ∀ c ∈ x, partsLexemes c = true := by
  have hparts : ∀ {c}, isBlank c = true → partsLexemes c = true := fun hc => by simp [partsLexemes, hc]
  rcases h with hblank | ⟨front, back, rfl, hfront, hback⟩
  · exact fun c hc => hparts (hblank c hc)
  · intro c hc
    rcases List.mem_append.mp hc with hc | hc
    · exact hparts (hfront c hc)
    · rcases List.mem_cons.mp hc with rfl | hc
      · decide
      · exact hparts (hback c hc)

/-- Behind a statement is read nothing but a semicolon, which may have been read with a comment before. -/
theorem LexState.Reaches.closing {s t : LexState} (h : s.Reaches t) (ht : t.rest = []) (hs : IsClosing s.rest) :
    (t.tokens = s.tokens ∧ t.pending = s.pending) ∨
      (t.tokens = ⟨.symbol, ";", ";", s.pending⟩ :: s.tokens ∧ t.pending = false) := by
  rcases hs with hblank | ⟨front, back, hrest, hfront, hback⟩
  · obtain ⟨u, hu, hurest, htokens, hpending⟩ := reaches_blanks (y := []) hblank (by simp) (List.append_nil s.rest).symm
    obtain rfl := h.end_unique hu ht hurest
    exact .inl ⟨htokens, hpending⟩
  · have hparted : Parted back := by
      cases back with
      | nil => rfl
      | cons c back => simp [Parted, partsLexemes, hback c List.mem_cons_self]
    obtain ⟨u, hu, hurest, hutokens, hupending⟩ := reaches_blanks hfront (by simp) hrest
    obtain ⟨v, hv, hvrest, hvtokens, hvpending⟩ :=
      reaches_blanks (s := ⟨back, _, _, _, _⟩) (y := []) hback (by simp) (List.append_nil back).symm
    obtain rfl := h.end_unique (hu.trans ((reaches_semicolon hparted hurest).trans hv)) ht hvrest
    exact .inr ⟨by rw [hvtokens, hutokens, hupending], hvpending⟩

theorem newLine_of_comment {body q : List Char} (hq : q <:+ body) (hcomment : InLineComment q) : newLine body = ['\n'] := by
  obtain ⟨front, rfl⟩ := hq
  obtain ⟨⟨rest, hrest⟩, hline⟩ := hcomment
  have hnone : '\n' ∉ q := fun h => (hline _ h).1 rfl
  have hdashes : ['-', '-'] <:+: lastLine (front ++ q) := by
    rw [lastLine_append_line front hnone, ← hrest]
    exact ⟨lastLine front, rest, by simp⟩
  rw [newLine, if_pos (hasDashes_iff.mpr hdashes)]

/-- The tokens of a text, of its statement and of the text with a limit. -/
theorem tokenize_limited {sql : String} {body : List Char} (hbody : IsBody sql.toList body)
    (hnone : ¬ hasLimit body = true) {cap : Nat} (hcap : 0 < cap) {ts : List Token} (htokens : tokenize sql = .ok ts)
    (hplain : ¬ HoldsCommand ts) : ∃ u : LexState, tokenize (String.ofList body) = .ok u.read ∧
      (ts = u.read ∨ ts = u.tokens.reverse ++ [⟨.symbol, ";", ";", u.pending⟩]) ∧
      tokenize (applyRowCap sql cap) = .ok (u.tokens.reverse ++ [{ keywordToken "LIMIT" with noted := u.pending },
        numberToken (String.ofList (Nat.toDigits 10 cap)), symbolToken ";"]) := by
  have hbody' := statementBody_eq_iff.mpr hbody
  obtain ⟨htight, closing, hsplit, hclosing⟩ := hbody
  have hclosing : IsClosing closing := hclosing.imp_left And.left
  have hbodyTight : Tight body := by
    unfold Tight
    cases hlast : body.getLast? with
    | none => rfl
    | some c => simpa [hlast] using htight
  obtain ⟨t, hreaches, ht, rfl⟩ := reaches_of_tokenize htokens hplain
  obtain ⟨u, hu, ⟨k, hrest⟩, hall⟩ := hreaches.body ht hsplit hbodyTight hclosing.parting
  refine ⟨u, ?_, ?_, ?_⟩
  · obtain ⟨v, hv, hvrest, hvtokens, hvpending⟩ := hall [] (fun hne => seam_parting hne hbodyTight (by simp)) (fun _ => rfl)
    rw [List.append_nil] at hv
    have hread : tokenize (String.ofList body) = .ok v.read := tokenize_of_reaches hv hvrest
    rwa [LexState.read, hvtokens, hvpending] at hread
  · rcases hu.closing ht (hrest ▸ hclosing.drop k) with ⟨htoks, hpending⟩ | ⟨htoks, hpending⟩
    · exact .inl (by rw [LexState.read, LexState.read, htoks, hpending])
    · exact .inr (by simp [LexState.read, htoks, hpending])
  · obtain ⟨gap, hgap, htail⟩ := newLine_limitText cap hnone
    have hout := toList_applyRowCap (show 0 < (cap : Int) by omega) hbody'
    rw [← List.append_assoc (newLine body), htail, List.cons_append] at hout
    have hblanks : ∀ gap ∈ [' ', '\n'], isBlank gap = true := forall_mem_of_all (by decide)
    have hseam : body ≠ [] → Seam body (gap :: (limitClause cap ++ [';'])) := fun hne => by
      simpa [limitClause] using seam_limit hne hbodyTight (hblanks gap hgap) (' ' :: (intText cap).toList ++ [';'])
    obtain ⟨v, hv, hvrest, hvtokens, hvpending⟩ := hall _ hseam fun hopen => by
      obtain ⟨q, hq, hcomment⟩ := hopen
      rw [newLine_of_comment hq hcomment] at htail
      obtain ⟨rfl, -⟩ := List.cons.inj htail
      rfl
    obtain ⟨w, hw, hwrest, hwtokens, hwpending⟩ := LexState.reaches_limit cap hgap hvrest
    have hread := tokenize_of_reaches (hv.trans hw) hwrest
    rw [← hout, String.ofList_toList] at hread
    rw [hread, LexState.read, hwpending, hwtokens, hvtokens, hvpending]
    simp

theorem splitStatements_read {u : LexState} {t : Tree} (h : judgeStatements (splitStatements u.read) = .ok t) :
    splitStatements u.tokens.reverse = splitStatements u.read := by
  unfold LexState.read at h ⊢
  split
  · rename_i hpending
    rw [if_pos hpending] at h
    exact splitStatements_noteLast h
  · rfl

/-- The tokens of a limit. -/
def limitTokens (cap : Nat) : List Token :=
  [keywordToken "LIMIT", numberToken (String.ofList (Nat.toDigits 10 cap))]

theorem Select.tokens_limit {s : Select} (h : s.limit = none) (cap : Nat) :
    { s with limit := some cap }.tokens = s.tokens ++ limitTokens cap := by
  simp [Select.tokens, Select.clauseTokens, limitTokens, h]

theorem Select.tree_limit {s : Select} (h : s.limit = none) (cap : Nat) :
    { s with limit := some cap }.tree = s.tree.append (limitTree (String.ofList (Nat.toDigits 10 cap))) := by
  rw [Select.tree_eq, Select.tree_eq]
  simp [Select.treeFrom, Select.headTrees, Tree.append, Select.clauses, h]

theorem judge_append {t c : Tree} (h : judge [t] = .ok t) (hc : c.anyKind Kind.changesData = false) :
    judge [t.append c] = .ok (t.append c) := by
  obtain ⟨-, hquery, hdata⟩ := judge_eq_ok_iff.mp h
  obtain ⟨kind, text, parts⟩ := t
  refine judge_eq_ok_iff.mpr ⟨rfl, hquery, ?_⟩
  have hparts : ∀ ts, anyKindIn Kind.changesData (ts ++ [c]) = anyKindIn Kind.changesData ts := by
    intro ts
    rw [Bool.eq_iff_iff, anyKindIn_iff, anyKindIn_iff]
    simp [hc]
  rw [Tree.append, Tree.anyKind, hparts]
  exact hdata

/-- A query with names of its own takes the limit that is put behind it. -/
theorem Select.judge_limit {s : Select} (hs : s.IsNamed) (hnone : s.limit = none) {front : List (List Token)} {t : Tree}
    (h : judgeStatements (front ++ [s.tokens]) = .ok t) (cap : Nat) :
    judgeStatements (front ++ [s.tokens ++ limitTokens cap]) = .ok { s with limit := some cap }.tree := by
  have hlimited : { s with limit := some cap }.IsNamed := { hs with }
  obtain ⟨hjudge, hnew⟩ :=
    judgeStatements_replace (s.parseStatement_tokens hs) (Select.parseStatement_tokens hlimited) h
  obtain rfl := judge_eq_self hjudge
  rw [← s.tokens_limit hnone, hnew, s.tree_limit hnone]
  exact judge_append hjudge rfl

/-- An accepted text is accepted with a limit just if its last statement is, with the tokens of the limit behind it. What
is read as the limit of the query hangs on the grammar, and for a query that is put together from names it is. -/
theorem applyRowCap_read {sql : String} {t : Tree} {ts : List Token} {cap : Nat}
    (haccepted : validate defaultDenied sql = .ok t) (htokens : tokenize sql = .ok ts) (hplain : ¬ HoldsCommand ts)
    (hnone : ¬ ∃ i, StandsAt limitWord sql.toList i) (hcap : 0 < cap) :
    ∃ body kept front last, IsBody sql.toList body ∧ tokenize (String.ofList body) = .ok kept ∧
      splitStatements kept = front ++ [last] ∧ judgeStatements (front ++ [last]) = .ok t ∧
      validate defaultDenied (applyRowCap sql cap) = judgeStatements (front ++ [last ++ limitTokens cap]) ∧
      ∀ s : Select, s.IsNamed → s.limit = none → last = s.tokens →
        validate defaultDenied (applyRowCap sql cap) = .ok { s with limit := some cap }.tree := by
  obtain ⟨body, hbody⟩ : ∃ body, statementBody sql.toList = body := ⟨_, rfl⟩
  have hspec := statementBody_eq_iff.mp hbody
  have hopen : ¬ hasLimit body = true := fun h => by
    obtain ⟨i, hi⟩ := hasLimit_iff.mp h
    exact hnone ⟨i, (hspec.limits i).mpr hi⟩
  have hclear := validate_ok_clear haccepted
  obtain ⟨u, hkept, hsql, hlimited⟩ := tokenize_limited hspec hopen hcap htokens hplain
  obtain ⟨front, last, hsplit⟩ := exists_last_statement u.tokens.reverse
  rw [validate_eq_judgeStatements hclear htokens] at haccepted
  have hread : splitStatements u.read = front ++ [last] ∧ judgeStatements (front ++ [last]) = .ok t := by
    rcases hsql with rfl | rfl
    · have hread := (splitStatements_read haccepted).symm.trans hsplit
      exact ⟨hread, hread ▸ haccepted⟩
    · have hmark : isSymbol ";" ⟨.symbol, ";", ";", u.pending⟩ = true := rfl
      rw [splitStatements_append hsplit (splitStatements_mark hmark []), List.append_nil] at haccepted
      cases hpending : u.pending with
      | true =>
        rw [hpending] at haccepted hmark
        exact absurd (by simp) (not_mark_of_judgeStatements haccepted hmark)
      | false =>
        rw [hpending] at haccepted
        have hnil : front ++ last :: ([] ++ splitStatements []) = front ++ [last] ++ [[]] := by simp [splitStatements]
        change judgeStatements (front ++ last :: ([] ++ splitStatements [])) = .ok t at haccepted
        rw [hnil, judgeStatements_concat_nil] at haccepted
        exact ⟨by rw [LexState.read, hpending]; exact hsplit, haccepted⟩
  have hcapped : validate defaultDenied (applyRowCap sql cap) = judgeStatements (front ++ [last ++ limitTokens cap]) := by
    have htail : splitStatements [{ keywordToken "LIMIT" with noted := u.pending },
        numberToken (String.ofList (Nat.toDigits 10 cap)), symbolToken ";"] = limitTokens cap :: [[]] := rfl
    rw [validate_eq_judgeStatements (applyRowCap_clear cap hclear) hlimited, splitStatements_append hsplit htail,
      List.append_cons, judgeStatements_concat_nil]
  exact ⟨body, u.read, front, last, hspec, hkept, hread.1, hread.2, hcapped, fun s hs hopen hlast => by
    rw [hcapped, hlast]
    exact s.judge_limit hs hopen (hlast ▸ hread.2) cap⟩

theorem applyRowCap_read_commented :
    let sql := "SELECT a FROM d.t -- c\n;"
    let s : Select := ⟨[⟨.named "a", none, none⟩], "d", "t", none, [], none, none⟩
    (∃ t, validate defaultDenied sql = .ok t) ∧ (∃ ts, tokenize sql = .ok ts ∧ ¬ HoldsCommand ts) ∧
      (¬ ∃ i, StandsAt limitWord sql.toList i) ∧ (0 : Nat) < 5 ∧
      validate defaultDenied (applyRowCap sql 5) = .ok { s with limit := some 5 }.tree := by
  intro sql s
  have hnone : ¬ ∃ i, StandsAt limitWord sql.toList i := by
    rw [← hasLimit_iff]
    decide +kernel
  have hs : s.IsNamed := by
    constructor <;> decide +kernel
  obtain ⟨t, haccepted⟩ : ∃ t, validate defaultDenied sql = .ok t := exists_tree_of_isOk (by decide +kernel)
  obtain ⟨ts, htokens⟩ := tokenize_of_validate haccepted
  have hplain : ¬ HoldsCommand ts := by
    have hall : ((tokenize sql).toOption.getD []).all (!opensCommand ·) = true := by decide +kernel
    rw [htokens] at hall
    exact not_holdsCommand (by simpa [Except.toOption] using hall)
  obtain ⟨body, kept, front, last, hbody, hkept, hsplit, -, -, hnamed⟩ :=
    applyRowCap_read haccepted htokens hplain hnone (by decide : 0 < 5)
  obtain rfl : "SELECT a FROM d.t -- c".toList = body := by
    rw [← statementBody_eq_iff.mpr hbody]
    decide +kernel
  have hstatements : ((tokenize "SELECT a FROM d.t -- c").toOption.map splitStatements) = some [s.tokens] := by
    decide +kernel
  rw [String.ofList_toList] at hkept
  rw [hkept] at hstatements
  have hlast : [] ++ [s.tokens] = front ++ [last] := (Option.some.inj hstatements).symm.trans hsplit
  obtain ⟨-, hlast⟩ := List.append_inj' hlast rfl
  exact ⟨⟨t, haccepted⟩, ⟨ts, htokens, hplain⟩, hnone, by decide, hnamed s hs rfl (List.cons.inj hlast).1.symm⟩

/-- A statement with two semicolons behind it is accepted, and with a limit it is not. -/
theorem applyRowCap_closedTwice : (validate defaultDenied "SELECT 1;;").isOk = true ∧
    (¬ ∃ i, StandsAt limitWord "SELECT 1;;".toList i) ∧ applyRowCap "SELECT 1;;" 5 = "SELECT 1; LIMIT 5;" ∧
    (validate defaultDenied (applyRowCap "SELECT 1;;" 5)).isOk = false := by
  rw [← hasLimit_iff]
  decide +kernel

end QueryGate
