import Mathlib.Logic.Relation
import QueryGate.Proofs.Sql.Piece
/-! The states that the lexer comes to. It comes to the end of a text in steps, and up to a seam it takes the same ones
whatever stands behind the seam. -/

namespace QueryGate

/-- The state with another text in front of it. -/
def LexState.withRest (s : LexState) (cs : List Char) : LexState :=
  { s with rest := cs }

/-- The state with other tokens. -/
def LexState.withTokens (s : LexState) (ts : List Token) : LexState :=
  { s with tokens := ts }

section

variable {s next : LexState} {piece : Piece} {n : Nat}

@[simp] theorem bare_noteLast (ts : List Token) : (noteLast ts).map Token.bare = ts.map Token.bare := by
  cases ts <;> rfl

theorem LexState.foldl_add_rest (found : List (TokenKind × String × String)) (s : LexState) :
    (found.foldl (fun s (kind, text, name) => s.add kind text name) s).rest = s.rest := by
  induction found generalizing s with
  | nil => rfl
  | cons t found ih => exact ih _

theorem LexState.comment_rest (s : LexState) (started : Nat) : (s.comment started).rest = s.rest := by
  unfold comment
  split <;> rfl

theorem LexState.pass_rest (s : LexState) (piece : Piece) (n : Nat) : (s.pass piece n).rest = s.rest.drop n := by
  cases piece with
  | blank => rfl
  | comment => exact comment_rest _ _
  | tokens found => exact foldl_add_rest found _

theorem LexState.foldl_add_withRest (found : List (TokenKind × String × String)) (s : LexState) (cs : List Char) :
    found.foldl (fun s (kind, text, name) => s.add kind text name) (s.withRest cs) =
      (found.foldl (fun s (kind, text, name) => s.add kind text name) s).withRest cs := by
  induction found generalizing s with
  | nil => rfl
  | cons t found ih => exact ih (s.add t.1 t.2.1 t.2.2)

theorem LexState.foldl_add_withTokens (found : List (TokenKind × String × String)) (s : LexState) : ∃ front, ∀ ts,
    found.foldl (fun s (kind, text, name) => s.add kind text name) (s.withTokens ts) =
      (found.foldl (fun s (kind, text, name) => s.add kind text name) s).withTokens (front ++ ts) := by
  induction found generalizing s with
  | nil => exact ⟨[], fun ts => rfl⟩
  | cons t found ih =>
    obtain ⟨front, hfront⟩ := ih (s.add t.1 t.2.1 t.2.2)
    refine ⟨front ++ [⟨t.1, t.2.1, t.2.2, s.pending⟩], fun ts => ?_⟩
    rw [List.append_assoc]
    exact hfront (⟨t.1, t.2.1, t.2.2, s.pending⟩ :: ts)

theorem LexState.comment_withRest (s : LexState) (started : Nat) (cs : List Char) :
    (s.withRest cs).comment started = (s.comment started).withRest cs := by
  unfold comment
  by_cases h : s.lastLine = some started <;> simp [withRest, h]

/-- What is done with a piece does not hang on what stands behind it. -/
theorem LexState.pass_withRest {p x : List Char} (h : s.rest = p ++ x) (hn : n ≤ p.length) (z : List Char) :
    (s.withRest (p ++ z)).pass piece n = (s.pass piece n).withRest (p.drop n ++ z) := by
  have hskip : (s.withRest (p ++ z)).skip n = (s.skip n).withRest (p.drop n ++ z) := by
    simp only [skip, withRest, h, List.take_append_of_le_length hn, List.drop_append_of_le_length hn]
  unfold pass
  rw [hskip]
  cases piece with
  | blank => rfl
  | comment => exact comment_withRest _ _ _
  | tokens found => exact foldl_add_withRest found _ _

/-! What a step keeps of the tokens: all of them but for notes. -/

theorem LexState.foldl_add_tokens (found : List (TokenKind × String × String)) (s : LexState) :
    s.tokens <:+ (found.foldl (fun s (kind, text, name) => s.add kind text name) s).tokens := by
  induction found generalizing s with
  | nil => exact List.suffix_rfl
  | cons t found ih => exact (List.suffix_cons _ _).trans (ih (s.add t.1 t.2.1 t.2.2))

theorem LexState.comment_tokens (s : LexState) (started : Nat) :
    (s.comment started).tokens.map Token.bare = s.tokens.map Token.bare := by
  unfold comment
  split
  · exact bare_noteLast s.tokens
  · rfl

theorem LexState.pass_tokens (s : LexState) (piece : Piece) (n : Nat) :
    s.tokens.map Token.bare <:+ (s.pass piece n).tokens.map Token.bare := by
  cases piece with
  | blank => exact List.suffix_rfl
  | comment => exact (congrArg (List.IsSuffix _) (comment_tokens (s.skip n) s.line)).mpr List.suffix_rfl
  | tokens found => exact (foldl_add_tokens found (s.skip n)).map _

theorem LexState.step_eq_ok (h : s.step = .ok next) : ∃ piece n,
    scan (s.tokens.head?.any (·.name = "SELECT")) s.rest = .ok (piece, n) ∧ next = s.pass piece n := by
  unfold step at h
  split at h
  · cases h
  · rename_i piece n hscan
    exact ⟨piece, n, hscan, (Except.ok.inj h).symm⟩

theorem LexState.step_tokens (h : s.step = .ok next) : s.tokens.map Token.bare <:+ next.tokens.map Token.bare := by
  obtain ⟨piece, n, -, rfl⟩ := step_eq_ok h
  exact pass_tokens s piece n

theorem LexState.step_rest (h : s.step = .ok next) (hrest : s.rest ≠ []) : next.rest.length < s.rest.length := by
  obtain ⟨piece, n, hscan, rfl⟩ := step_eq_ok h
  have hpos := scan_pos hrest hscan
  have hlength := List.length_pos_iff.mpr hrest
  rw [pass_rest, List.length_drop]
  omega

theorem LexState.commandEnd_rest (h : commandEnd n s = .ok next) : next.rest.length ≤ s.rest.length := by
  fun_induction commandEnd n s with
  | case1 => exact (Except.ok.inj h) ▸ Nat.le_refl _
  | case2 => exact (Except.ok.inj h) ▸ Nat.le_refl _
  | case3 => cases h
  | case4 n s hrest mid hmid hend =>
    obtain rfl := Except.ok.inj h
    exact (step_rest hmid (by simpa using hrest)).le
  | case5 n s hrest mid hmid hend ih => exact (ih h).trans (step_rest hmid (by simpa using hrest)).le

theorem LexState.command_eq_ok (h : s.command = .ok next) :
    next.rest.length ≤ s.rest.length ∧ s.tokens <:+ next.tokens := by
  unfold command at h
  split at h
  · obtain rfl := Except.ok.inj h
    exact ⟨Nat.le_refl _, List.suffix_rfl⟩
  split at h
  · cases h
  · rename_i stop hstop
    have hrest := commandEnd_rest hstop
    dsimp only at h
    split at h <;> obtain rfl := Except.ok.inj h
    · exact ⟨hrest, List.suffix_rfl⟩
    · exact ⟨hrest, List.suffix_cons _ _⟩

theorem LexState.run_tokens (h : run n s = .ok next) : s.tokens.map Token.bare <:+ next.tokens.map Token.bare := by
  fun_induction run n s with
  | case1 => exact (Except.ok.inj h) ▸ List.suffix_rfl
  | case2 => exact (Except.ok.inj h) ▸ List.suffix_rfl
  | case3 => cases h
  | case4 => cases h
  | case5 n s hrest mid hmid hcommand after hafter ih =>
    exact (step_tokens hmid).trans (((command_eq_ok hafter).2.map _).trans (ih h))
  | case6 n s hrest mid hmid hplain ih => exact (step_tokens hmid).trans (ih h)

/-! Runs without a command. -/

/-- A command opens in the tokens: a keyword of commands at the start of a statement or right behind `BEGIN`. -/
def HoldsCommand (ts : List Token) : Prop :=
  ∃ before t after, ts = before ++ t :: after ∧ opensCommand t = true ∧ before.getLast?.all endsStatement = true

theorem not_holdsCommand {ts : List Token} (h : ∀ t ∈ ts, opensCommand t = false) : ¬ HoldsCommand ts := by
  rintro ⟨before, t, after, rfl, hopens, -⟩
  rw [h t (by simp)] at hopens
  cases hopens

/-- A step from one state to the next, behind which no command opens. -/
structure LexState.Advances (s next : LexState) : Prop where
  more : s.rest ≠ []
  step : s.step = .ok next
  plain : ¬ (s.tokens.length < next.tokens.length && next.atCommand) = true

/-- The lexer comes from one state to another, and no command opens on the way. -/
abbrev LexState.Reaches : LexState → LexState → Prop :=
  Relation.ReflTransGen LexState.Advances

theorem LexState.Reaches.rest_le {s t : LexState} (h : s.Reaches t) : t.rest.length ≤ s.rest.length := by
  induction h using Relation.ReflTransGen.head_induction_on with
  | refl => exact Nat.le_refl _
  | head h _ ih => exact ih.trans (step_rest h.step h.more).le

/-- A run goes on from a state that was reached. -/
theorem LexState.Reaches.run {s t : LexState} (h : s.Reaches t) (hn : s.rest.length < n) :
    ∃ m, t.rest.length < m ∧ run n s = run m t := by
  induction h using Relation.ReflTransGen.head_induction_on generalizing n with
  | refl => exact ⟨n, hn, rfl⟩
  | @head s next h _ ih =>
    obtain ⟨n, rfl⟩ : ∃ k, n = k + 1 := ⟨n - 1, by omega⟩
    have hlt := step_rest h.step h.more
    obtain ⟨m, hm, hrun⟩ := ih (n := n) (by omega)
    refine ⟨m, hm, hrun ▸ ?_⟩
    have hempty : s.rest.isEmpty = false := by simpa using h.more
    rw [LexState.run, hempty, h.step]
    exact if_neg h.plain

theorem LexState.run_end (hrest : s.rest = []) : run n s = .ok s := by
  cases n with
  | zero => rfl
  | succ n => simp [run, hrest]

/-- On the way to the end of a text stand all states that are reached. -/
theorem LexState.Reaches.onward {s t u : LexState} (ht : s.Reaches t) (hu : s.Reaches u) (hend : u.rest = []) :
    t.Reaches u := by
  induction ht using Relation.ReflTransGen.head_induction_on with
  | refl => exact hu
  | head h _ ih =>
    refine ih ?_
    rcases Relation.ReflTransGen.cases_head hu with rfl | ⟨next, h', hrest⟩
    · exact absurd hend h.more
    · obtain rfl := Except.ok.inj (h.step.symm.trans h'.step)
      exact hrest

theorem LexState.Reaches.end_unique {s t u : LexState} (ht : s.Reaches t) (hu : s.Reaches u) (htrest : t.rest = [])
    (hurest : u.rest = []) : t = u := by
  rcases Relation.ReflTransGen.cases_head (ht.onward hu hurest) with rfl | ⟨next, h, -⟩
  · rfl
  · exact absurd htrest h.more

theorem LexState.atCommand_cases (h : s.atCommand = true) : ∃ t before, s.tokens = t :: before ∧
    opensCommand t = true ∧ before.head?.all endsStatement = true := by
  unfold atCommand at h
  split at h
  · rename_i t htokens
    exact ⟨t, [], htokens, h, rfl⟩
  · rename_i t b before htokens
    obtain ⟨hopens, hends⟩ := (Bool.and_eq_true _ _).mp h
    exact ⟨t, b :: before, htokens, hopens, hends⟩
  · cases h

/-- A command that opened is one in the tokens at the end. -/
theorem LexState.holdsCommand (h : s.atCommand = true) {us : List Token}
    (hus : s.tokens.map Token.bare <:+ us.map Token.bare) : HoldsCommand us.reverse := by
  obtain ⟨t, before, htokens, hopens, hends⟩ := atCommand_cases h
  obtain ⟨front, hfront⟩ := hus
  rw [htokens, List.map_cons] at hfront
  obtain ⟨after, rest, rfl, -, hrest⟩ := List.map_eq_append_iff.mp hfront.symm
  obtain ⟨u, before', rfl, hu, hbefore⟩ := List.map_eq_cons_iff.mp hrest
  refine ⟨before'.reverse, u, after.reverse, by simp, ?_, ?_⟩
  · exact (congrArg opensCommand hu).trans hopens
  · rw [List.getLast?_reverse]
    cases before' with
    | nil => rfl
    | cons b' before' =>
      obtain ⟨b, before, rfl, hb, -⟩ := List.map_eq_cons_iff.mp hbefore.symm
      have hsame : endsStatement b' = endsStatement b := (congrArg endsStatement hb).symm
      simpa [hsame] using hends

/-- A run in which no command opens reaches its end. -/
theorem LexState.reaches_of_run {s t : LexState} (h : LexState.run n s = .ok t) (hn : s.rest.length < n)
    {us : List Token} (hus : us.map Token.bare = t.tokens.map Token.bare) (hplain : ¬ HoldsCommand us.reverse) :
    s.Reaches t ∧ t.rest = [] := by
  fun_induction LexState.run n s with
  | case1 => omega
  | case2 n s hrest =>
    obtain rfl := Except.ok.inj h
    exact ⟨.refl, by simpa using hrest⟩
  | case3 => cases h
  | case4 => cases h
  | case5 n s hrest mid hmid hcommand after hafter ih =>
    have htokens := ((command_eq_ok hafter).2.map Token.bare).trans (run_tokens h)
    rw [← hus] at htokens
    exact absurd (holdsCommand ((Bool.and_eq_true _ _).mp hcommand).2 htokens) hplain
  | case6 n s hrest mid hmid hno ih =>
    have hlt := step_rest hmid (by simpa using hrest)
    obtain ⟨hreaches, hend⟩ := ih h (by omega)
    exact ⟨.head ⟨by simpa using hrest, hmid, hno⟩ hreaches, hend⟩

/-- The tokens at the end of a text. A comment that waits for a token belongs to the last one. -/
def LexState.read (s : LexState) : List Token :=
  (if s.pending then noteLast s.tokens else s.tokens).reverse

theorem tokenize_of_reaches {cs : List Char} {t : LexState} (h : (LexState.start cs).Reaches t) (ht : t.rest = []) :
    tokenize (String.ofList cs) = .ok t.read := by
  obtain ⟨m, -, hrun⟩ := h.run (n := cs.length + 1) (Nat.lt_succ_self _)
  rw [LexState.run_end ht] at hrun
  simp only [tokenize, String.toList_ofList, hrun]
  rfl

theorem reaches_of_tokenize {sql : String} {ts : List Token} (h : tokenize sql = .ok ts)
    (hplain : ¬ HoldsCommand ts) : ∃ t, (LexState.start sql.toList).Reaches t ∧ t.rest = [] ∧ ts = t.read := by
  unfold tokenize at h
  dsimp only at h
  split at h
  · cases h
  · rename_i t hrun
    obtain rfl : t.read = ts := Except.ok.inj h
    have hbare : (if t.pending then noteLast t.tokens else t.tokens).map Token.bare = t.tokens.map Token.bare := by
      split <;> simp
    obtain ⟨hreaches, hend⟩ := LexState.reaches_of_run hrun (Nat.lt_succ_self _) hbare hplain
    exact ⟨t, hreaches, hend, rfl⟩

variable {p x z : List Char}

/-! Steps in front of a seam. -/

theorem scan_lineComment (hp : InLineComment p) (afterSelect : Bool) (x : List Char) :
    scan afterSelect (p ++ x) = .ok (.comment, p.length + lineCommentLength x) := by
  obtain ⟨⟨rest, rfl⟩, hline⟩ := hp
  have hblank : isBlank '-' = false := by decide
  have hdigit : isDigitChar '-' = false := by decide
  have hpass : ∀ c ∈ '-' :: '-' :: rest, (c ≠ '\n' && c ≠ '\r') = true := fun c hc => by simpa using hline c hc
  have hlength : lineCommentLength (('-' :: '-' :: rest) ++ x) =
      ('-' :: '-' :: rest).length + lineCommentLength x := by
    unfold lineCommentLength
    rw [List.takeWhile_append_of_pos hpass, List.length_append]
  change scan afterSelect ('-' :: '-' :: (rest ++ x)) = _
  rw [scan, if_neg (by simp [hblank]), if_neg (by simp [hdigit]), if_neg (by decide), if_neg (by decide), if_pos (by simp [List.isPrefixOf])]
  exact congrArg (fun k => Except.ok (Piece.comment, k)) hlength

theorem LexState.step_of_scan {piece : Piece} {n : Nat}
    (h : scan (s.tokens.head?.any (·.name = "SELECT")) s.rest = .ok (piece, n)) : s.step = .ok (s.pass piece n) := by
  unfold step
  rw [h]

/-- What a comment is given to does not hang on its length. -/
theorem LexState.pass_comment (s : LexState) (n : Nat) :
    (s.pass .comment n).tokens = (if s.lastLine = some s.line then noteLast s.tokens else s.tokens) ∧
    (s.pass .comment n).pending = (if s.lastLine = some s.line then s.pending else true) := by
  unfold pass comment
  by_cases h : s.lastLine = some s.line <;> simp [skip, h]

theorem LexState.length_pass_comment (s : LexState) (n : Nat) : (s.pass .comment n).tokens.length = s.tokens.length := by
  have hbare := congrArg List.length (comment_tokens (s.skip n) s.line)
  rwa [List.length_map, List.length_map] at hbare

/-- A step within a text is the same whatever stands behind the text. -/
theorem LexState.step_swap (hs : s.rest = p ++ x) (hx : Seam p x) (hz : Seam p z) (hopen : ¬ InLineComment p)
    (hstep : s.step = .ok next)
    (hwithin : (∀ c ∈ x, partsLexemes c = true) ∨ x.length < next.rest.length) :
    ∃ q, q <:+ p ∧ next.rest = q ++ x ∧ (s.withRest (p ++ z)).step = .ok (next.withRest (q ++ z)) := by
  obtain ⟨piece, n, hscan, rfl⟩ := step_eq_ok hstep
  rw [hs] at hscan
  have hn : n ≤ p.length ∨ ∀ c ∈ x, partsLexemes c = true := by
    refine hwithin.symm.imp_left fun h => ?_
    rw [pass_rest, hs, List.length_drop, List.length_append] at h
    omega
  obtain ⟨hle, hswap⟩ := scan_swap hx hz hopen hscan hn
  refine ⟨p.drop n, List.drop_suffix n p, ?_, ?_⟩
  · rw [pass_rest, hs, List.drop_append_of_le_length hle]
  · rw [← pass_withRest hs hle]
    exact step_of_scan hswap

/-- Up to a place in front of the seam, the lexer comes whatever stands behind the seam. -/
theorem LexState.Reaches.swap {s t : LexState} (h : s.Reaches t) {q : List Char} (hs : s.rest = p ++ x)
    (ht : t.rest = q ++ x) (hq : q ≠ []) (hx : Seam p x) (hz : Seam p z) :
    (s.withRest (p ++ z)).Reaches (t.withRest (q ++ z)) := by
  induction h using Relation.ReflTransGen.head_induction_on generalizing p with
  | refl =>
    rw [hs] at ht
    rw [List.append_cancel_right ht]
  | @head s next hstep h ih =>
    have hlength := LexState.Reaches.rest_le h
    have hpos := List.length_pos_iff.mpr hq
    rw [ht, List.length_append] at hlength
    have hopen : ¬ InLineComment p := by
      intro hp
      obtain ⟨piece, n, hscan, rfl⟩ := step_eq_ok hstep.step
      rw [hs, scan_lineComment hp] at hscan
      obtain ⟨rfl, rfl⟩ := Prod.mk.inj (Except.ok.inj hscan)
      rw [pass_rest, hs, List.length_drop, List.length_append] at hlength
      omega
    obtain ⟨r, hr, hnext, hswap⟩ := step_swap hs hx hz hopen hstep.step (.inr (by omega))
    have hne : r ≠ [] := by
      rintro rfl
      rw [hnext, List.nil_append] at hlength
      omega
    refine .head ⟨?_, hswap, hstep.plain⟩ (ih hnext (hx.suffix hr hne) (hz.suffix hr hne))
    exact List.append_ne_nil_of_left_ne_nil hx.nonempty z

/-- What is read of a text that only blanks and semicolons stand behind, and would be whatever else stood there. A
comment at its end may go on over the blanks and semicolons. -/
theorem LexState.Reaches.body {s t : LexState} (h : s.Reaches t) (ht : t.rest = []) (hs : s.rest = p ++ x)
    (htight : Tight p) (hblank : ∀ c ∈ x, partsLexemes c = true) :
    ∃ u : LexState, u.Reaches t ∧ (∃ k, u.rest = x.drop k) ∧ ∀ z, (p ≠ [] → Seam p z) →
      ((∃ q, q <:+ p ∧ InLineComment q) → lineCommentLength z = 0) →
      ∃ v, (s.withRest (p ++ z)).Reaches v ∧ v.rest = z ∧ v.tokens = u.tokens ∧ v.pending = u.pending := by
  induction h using Relation.ReflTransGen.head_induction_on generalizing p with
  | refl =>
    rw [ht] at hs
    obtain ⟨rfl, rfl⟩ := List.append_eq_nil_iff.mp hs.symm
    exact ⟨t, .refl, ⟨0, ht⟩, fun z _ _ => ⟨t.withRest z, .refl, rfl, rfl, rfl⟩⟩
  | @head s next hstep h ih =>
    by_cases hp : p = []
    · subst hp
      exact ⟨s, .head hstep h, ⟨0, hs⟩, fun z _ _ => ⟨s.withRest z, .refl, rfl, rfl, rfl⟩⟩
    have hne : ∀ z, p ++ z ≠ [] := List.append_ne_nil_of_left_ne_nil hp
    by_cases hopen : InLineComment p
    · have hscan := scan_lineComment hopen (s.tokens.head?.any (·.name = "SELECT")) x
      rw [← hs] at hscan
      obtain rfl : s.pass .comment (p.length + lineCommentLength x) = next :=
        Except.ok.inj ((step_of_scan hscan).symm.trans hstep.step)
      obtain ⟨htokens, hpending⟩ := pass_comment s (p.length + lineCommentLength x)
      refine ⟨_, h, ⟨lineCommentLength x, ?_⟩, fun z _ hline => ?_⟩
      · rw [pass_rest, hs, List.drop_append, List.drop_eq_nil_of_le (Nat.le_add_right _ _), List.nil_append,
          Nat.add_sub_cancel_left]
      have hscan' := scan_lineComment hopen (s.tokens.head?.any (·.name = "SELECT")) z
      rw [hline ⟨p, List.suffix_rfl, hopen⟩, Nat.add_zero] at hscan'
      have hlength := length_pass_comment (s.withRest (p ++ z)) p.length
      obtain ⟨htokens', hpending'⟩ := pass_comment (s.withRest (p ++ z)) p.length
      refine ⟨_, .single ⟨hne z, step_of_scan (s := s.withRest (p ++ z)) hscan', ?_⟩, ?_, ?_, ?_⟩
      · simp [hlength]
      · rw [pass_rest]
        exact List.drop_left
      · exact htokens'.trans htokens.symm
      · exact hpending'.trans hpending.symm
    · have hx := seam_parting hp htight hblank
      obtain ⟨r, hr, hnext, -⟩ := step_swap hs hx hx hopen hstep.step (.inl hblank)
      obtain ⟨u, hu, hrest', hall⟩ := ih hnext (htight.suffix hr)
      refine ⟨u, hu, hrest', fun z hz hline => ?_⟩
      obtain ⟨r', -, hnext', hswap⟩ := step_swap hs hx (hz hp) hopen hstep.step (.inl hblank)
      obtain rfl : r = r' := List.append_cancel_right (hnext.symm.trans hnext')
      obtain ⟨v, hv, hvrest, hvtokens, hvpending⟩ := hall z (fun hne => (hz hp).suffix hr hne)
        (fun ⟨q, hq, hcomment⟩ => hline ⟨q, hq.trans hr, hcomment⟩)
      exact ⟨v, .head ⟨hne z, hswap, hstep.plain⟩ hv, hvrest, hvtokens, hvpending⟩

/-! Single pieces. -/

/-- Blanks are passed over. -/
theorem LexState.reaches_blanks {y : List Char} (hx : ∀ c ∈ x, isBlank c = true) (hy : y.head? ≠ some '\n')
    (hs : s.rest = x ++ y) :
    ∃ t, s.Reaches t ∧ t.rest = y ∧ t.tokens = s.tokens ∧ t.pending = s.pending := by
  induction hn : x.length using Nat.strong_induction_on generalizing s x with
  | _ n ih =>
    cases x with
    | nil => exact ⟨s, .refl, hs, rfl, rfl⟩
    | cons c x =>
      have hall := hx
      obtain ⟨hc, hx⟩ := List.forall_mem_cons.mp hx
      obtain ⟨k, hk⟩ : ∃ k, (if c = '\r' && (x ++ y).head? = some '\n' then 2 else 1) = k := ⟨_, rfl⟩
      have hscan := scan_blank hc (s.tokens.head?.any (·.name = "SELECT")) (x ++ y)
      rw [hk, ← List.cons_append, ← hs] at hscan
      have hle : 0 < k ∧ k ≤ (c :: x).length := by
        rw [← hk]
        split
        · rename_i hfeed
          cases x with
          | nil => simp [hy] at hfeed
          | cons d x => simp
        · simp
      have hrest : (s.pass .blank k).rest = (c :: x).drop k ++ y := by
        rw [pass_rest, hs, List.drop_append_of_le_length hle.2]
      obtain ⟨t, ht, hty, htokens, hpending⟩ := ih _ (by rw [List.length_drop]; omega)
        (fun d hd => hall d (List.mem_of_mem_drop hd)) hrest rfl
      refine ⟨t, .head ⟨?_, step_of_scan hscan, ?_⟩ ht, hty, htokens, hpending⟩
      · rw [hs]
        exact List.cons_ne_nil _ _
      · rw [Bool.and_eq_true, decide_eq_true_eq]
        exact fun h => Nat.lt_irrefl _ h.1

theorem LexState.reaches_space {y : List Char} (hs : s.rest = ' ' :: y) : s.Reaches (s.withRest y) := by
  have hscan : scan (s.tokens.head?.any (·.name = "SELECT")) s.rest = .ok (.blank, 1) := by
    rw [hs]
    exact scan_blank (by decide) _ _
  have hpass : s.pass .blank 1 = s.withRest y := by
    simp [pass, skip, withRest, hs, lineEnds]
  refine .single ⟨by simp [hs], hpass ▸ step_of_scan hscan, ?_⟩
  rw [Bool.and_eq_true, decide_eq_true_eq]
  exact fun h => Nat.lt_irrefl _ h.1

theorem lineEnds_eq_zero {cs : List Char} (h : ∀ c ∈ cs, c ≠ '\n' ∧ c ≠ '\r') : lineEnds cs = 0 := by
  fun_induction lineEnds cs with
  | case1 => rfl
  | case2 rest ih => exact absurd rfl (h '\r' List.mem_cons_self).2
  | case3 c rest _ ih =>
    obtain ⟨hc, hrest⟩ := List.forall_mem_cons.mp h
    simp [hc, ih hrest]

/-- A token on one line is read, if it opens no command where it stands. -/
theorem LexState.reaches_token {y : List Char} {kind : TokenKind} {text name : String} (hx : x ≠ [])
    (hline : ∀ c ∈ x, c ≠ '\n' ∧ c ≠ '\r')
    (hscan : ∀ afterSelect, scan afterSelect (x ++ y) = .ok (.token kind text name, x.length))
    (hplain : opensCommand ⟨kind, text, name, false⟩ = true → s.tokens.head?.all endsStatement = false)
    (hs : s.rest = x ++ y) : s.Reaches ⟨y, s.line, ⟨kind, text, name, s.pending⟩ :: s.tokens, false, some s.line⟩ := by
  have hhere := hscan (s.tokens.head?.any (·.name = "SELECT"))
  rw [← hs] at hhere
  have hpass : s.pass (.token kind text name) x.length =
      ⟨y, s.line, ⟨kind, text, name, s.pending⟩ :: s.tokens, false, some s.line⟩ := by
    simp [pass, Piece.token, skip, add, hs, lineEnds_eq_zero hline]
  refine .single ⟨hs ▸ List.append_ne_nil_of_left_ne_nil hx y, hpass ▸ step_of_scan hhere, ?_⟩
  rw [Bool.and_eq_true]
  rintro ⟨-, hcommand⟩
  obtain ⟨t, before, htokens, ht, hends⟩ := atCommand_cases hcommand
  obtain ⟨rfl, rfl⟩ := List.cons.inj htokens
  exact Bool.false_ne_true ((hplain ht).symm.trans hends)

theorem LexState.reaches_semicolon {y : List Char} (hy : Parted y) (hs : s.rest = ';' :: y) :
    s.Reaches ⟨y, s.line, ⟨.symbol, ";", ";", s.pending⟩ :: s.tokens, false, some s.line⟩ :=
  reaches_token (List.cons_ne_nil ';' []) (forall_mem_of_all (by decide)) (scan_semicolon hy) (fun h => absurd h (by decide)) hs

end

end QueryGate
