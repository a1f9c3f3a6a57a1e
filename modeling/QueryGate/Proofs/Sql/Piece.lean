import QueryGate.Proofs.Sql.Seam
/-! The pieces of a text at a seam. A piece that ends in front of the seam is the same whatever stands behind the seam. -/

namespace QueryGate

/-! Strings and comments, which reach to a mark that closes them. -/

theorem Parted.unescape_append {z : List Char} (h : Parted z) {p : List Char} (hp : p ≠ []) :
    unescape (p ++ z) = unescape p := by
  have hoctal : ∀ c, z.head? = some c → isOctalDigit c = false := by
    intro c hc
    cases z with
    | nil => cases hc
    | cons d z =>
      obtain rfl : d = c := by simpa using hc
      exact isOctalDigit_of_partsLexemes h.head
  match p with
  | [] => exact absurd rfl hp
  | [a] =>
    refine (unescape_single fun b c more hrest _ hb => ?_).trans (by rfl)
    obtain rfl : z = b :: c :: more := hrest
    rw [hoctal b rfl] at hb
    cases hb
  | [a, b] =>
    refine (unescape_single fun b c more hrest _ hb => ?_).trans (by rfl)
    obtain rfl : z = c :: more := (List.cons.inj hrest).2
    exact hoctal c rfl
  | a :: b :: c :: more => rfl

theorem unescape_single_count {a : Char} {content : List Char} {n : Nat}
    (h : unescape.single a = some (content, n)) : n = 1 := by
  unfold unescape.single at h
  split at h <;> simp_all

theorem unescape_count {cs content : List Char} {n : Nat} (h : unescape cs = some (content, n)) :
    0 < n ∧ n ≤ cs.length := by
  match cs with
  | [] => cases h
  | [a] => simp [unescape_single_count h]
  | [a, b] => simp [unescape_single_count h]
  | a :: b :: c :: more =>
    unfold unescape at h
    dsimp only at h
    split at h
    · obtain ⟨-, rfl⟩ := Prod.mk.inj (Option.some.inj h)
      simp
    · simp [unescape_single_count h]

theorem readQuoted_length {quote : Char} {escapes : Bool} {n : Nat} {cs content rest : List Char}
    (h : readQuoted quote escapes n cs = some (content, rest)) : rest.length < cs.length := by
  fun_induction readQuoted quote escapes n cs generalizing content with
  | case1 => cases h
  | case2 => cases h
  | case3 n c cs hescape hnone => cases h
  | case4 n c cs hescape chars count hchars ih =>
    obtain ⟨⟨inner, more⟩, hmore, hpair⟩ := Option.map_eq_some_iff.mp h
    obtain ⟨-, rfl⟩ := Prod.mk.inj hpair
    have hrest := ih hmore
    rw [List.length_drop] at hrest
    rw [List.length_cons]
    omega
  | case5 n more hescape ih =>
    obtain ⟨⟨inner, behind⟩, hbehind, hpair⟩ := Option.map_eq_some_iff.mp h
    obtain ⟨-, rfl⟩ := Prod.mk.inj hpair
    have hlength := ih hbehind
    simp only [List.length_cons]
    omega
  | case6 n d more hd hescape =>
    obtain ⟨-, rfl⟩ := Prod.mk.inj (Option.some.inj h)
    exact Nat.lt_succ_self _
  | case7 n hescape =>
    obtain ⟨-, rfl⟩ := Prod.mk.inj (Option.some.inj h)
    exact Nat.lt_succ_self _
  | case8 n c cs hescape hquote ih =>
    obtain ⟨⟨inner, behind⟩, hbehind, hpair⟩ := Option.map_eq_some_iff.mp h
    obtain ⟨-, rfl⟩ := Prod.mk.inj hpair
    exact (ih hbehind).trans (Nat.lt_succ_self _)

theorem Parted.readQuoted_close {z : List Char} (h : Parted z) {quote : Char}
    (hquote : partsLexemes quote = false) {escapes : Bool} (hescape : ¬ (escapes && quote = '\\') = true)
    (n : Nat) : readQuoted quote escapes (n + 1) (quote :: z) = some ([], z) := by
  cases z with
  | nil => simp [readQuoted, hescape]
  | cons d z => simp [readQuoted, hescape, ne_of_partsLexemes h.head hquote]

theorem readQuoted_eq_none {quote : Char} (hquote : partsLexemes quote = false) (escapes : Bool) {x : List Char}
    (hx : ∀ c ∈ x, partsLexemes c = true) (n : Nat) : readQuoted quote escapes n x = none := by
  induction x generalizing n with
  | nil => cases n <;> rfl
  | cons c x ih =>
    obtain ⟨hc, hx⟩ := List.forall_mem_cons.mp hx
    have hne : c ≠ quote := ne_of_partsLexemes hc hquote
    have hback : c ≠ '\\' := ne_of_partsLexemes hc (by decide)
    cases n with
    | zero => rfl
    | succ n => simp [readQuoted, hne, hback, ih hx n]

/-- No string ends behind the seam if it stops in front of it, or if there are only blanks and semicolons. -/
theorem readQuoted_ne_within {quote : Char} (hquote : partsLexemes quote = false) {escapes : Bool}
    {x rest : List Char} (hwithin : x.length ≤ rest.length ∨ ∀ c ∈ x, partsLexemes c = true) (n count : Nat)
    (content : List Char) : readQuoted quote escapes n (x.drop count) ≠ some (content, rest) := by
  intro h
  rcases hwithin with hrest | hx
  · have hlength := readQuoted_length h
    rw [List.length_drop] at hlength
    omega
  · rw [readQuoted_eq_none hquote escapes (fun c hc => hx c (List.mem_of_mem_drop hc)) n] at h
    cases h

/-- A string that closes within a text is the same whatever stands behind the text. -/
theorem readQuoted_swap {quote : Char} (hquote : partsLexemes quote = false) {escapes : Bool}
    {x z : List Char} (hx : Parted x) (hz : Parted z) {n : Nat} {p content rest : List Char}
    (h : readQuoted quote escapes n (p ++ x) = some (content, rest))
    (hwithin : x.length ≤ rest.length ∨ ∀ c ∈ x, partsLexemes c = true) {m : Nat} (hm : p.length ≤ m) :
    ∃ r, rest = r ++ x ∧ readQuoted quote escapes m (p ++ z) = some (content, r ++ z) := by
  induction n generalizing p content m with
  | zero => cases h
  | succ n ih =>
    cases p with
    | nil =>
      rw [List.nil_append, ← List.drop_zero (l := x)] at h
      exact absurd h (readQuoted_ne_within hquote hwithin _ _ _)
    | cons c p =>
      obtain ⟨m, rfl⟩ : ∃ k, m = k + 1 := ⟨m - 1, by rw [List.length_cons] at hm; omega⟩
      rw [List.length_cons] at hm
      rw [List.cons_append] at h ⊢
      by_cases hescape : (escapes && c = '\\') = true
      · simp only [readQuoted, if_pos hescape] at h ⊢
        cases p with
        | nil =>
          -- The character behind the backslash would be one behind the seam.
          rw [List.nil_append] at h
          cases hchars : unescape x with
          | none => simp [hchars] at h
          | some found =>
            obtain ⟨chars, count⟩ := found
            simp only [hchars] at h
            obtain ⟨⟨inner, behind⟩, hbehind, hpair⟩ := Option.map_eq_some_iff.mp h
            obtain ⟨-, rfl⟩ := Prod.mk.inj hpair
            exact absurd hbehind (readQuoted_ne_within hquote hwithin _ _ _)
        | cons d p =>
          rw [hx.unescape_append (List.cons_ne_nil d p)] at h
          rw [hz.unescape_append (List.cons_ne_nil d p)]
          cases hchars : unescape (d :: p) with
          | none => simp [hchars] at h
          | some found =>
            obtain ⟨chars, count⟩ := found
            obtain ⟨hpos, hcount⟩ := unescape_count hchars
            simp only [hchars] at h ⊢
            rw [List.drop_append_of_le_length hcount] at h ⊢
            obtain ⟨⟨inner, behind⟩, hbehind, hpair⟩ := Option.map_eq_some_iff.mp h
            obtain ⟨rfl, rfl⟩ := Prod.mk.inj hpair
            obtain ⟨r, hr, hread⟩ := ih hbehind (m := m) (by rw [List.length_drop]; omega)
            exact ⟨r, hr, by rw [hread]; rfl⟩
      by_cases hc : c = quote
      · subst hc
        cases p with
        | nil =>
          rw [List.nil_append, hx.readQuoted_close hquote hescape n] at h
          obtain ⟨rfl, rfl⟩ := Prod.mk.inj (Option.some.inj h)
          exact ⟨[], rfl, hz.readQuoted_close hquote hescape m⟩
        | cons d p =>
          rw [List.cons_append, readQuoted, if_neg hescape, if_pos rfl] at h ⊢
          by_cases hd : d = c
          · rw [if_pos hd] at h ⊢
            obtain ⟨⟨inner, behind⟩, hbehind, hpair⟩ := Option.map_eq_some_iff.mp h
            obtain ⟨rfl, rfl⟩ := Prod.mk.inj hpair
            obtain ⟨r, hr, hread⟩ := ih hbehind (m := m) (by rw [List.length_cons] at hm; omega)
            exact ⟨r, hr, by rw [hread]; rfl⟩
          · rw [if_neg hd] at h ⊢
            obtain ⟨rfl, rfl⟩ := Prod.mk.inj (Option.some.inj h)
            exact ⟨d :: p, rfl, rfl⟩
      · simp only [readQuoted, if_neg hescape, if_neg hc] at h ⊢
        obtain ⟨⟨inner, behind⟩, hbehind, hpair⟩ := Option.map_eq_some_iff.mp h
        obtain ⟨rfl, rfl⟩ := Prod.mk.inj hpair
        obtain ⟨r, hr, hread⟩ := ih hbehind (m := m) (by omega)
        exact ⟨r, hr, by rw [hread]; rfl⟩

theorem Parted.head?_eq_some_iff {z : List Char} (h : Parted z) {d : Char} (hd : partsLexemes d = false)
    (p : List Char) : (p ++ z).head? = some d ↔ p.head? = some d := by
  cases p with
  | cons c p => rfl
  | nil =>
    cases z with
    | nil => rfl
    | cons c z => simpa using ne_of_partsLexemes h.head hd

/-- What opens a comment inside a comment. -/
structure IsOpening (opening : List Char) : Prop where
  nonempty : opening ≠ []
  solid : ∀ c ∈ opening, partsLexemes c = false

theorem blockCommentLength_pos {opening cs : List Char} {n depth count : Nat}
    (h : blockCommentLength opening n depth cs = some count) : 0 < count := by
  unfold blockCommentLength at h
  split at h
  · cases h
  · cases h
  · dsimp only at h
    split at h
    · obtain rfl := Option.some.inj h
      exact Nat.two_pos
    split at h
    · obtain ⟨k, -, rfl⟩ := Option.map_eq_some_iff.mp h
      omega
    · obtain ⟨k, -, rfl⟩ := Option.map_eq_some_iff.mp h
      omega

theorem blockCommentLength_eq_none {opening : List Char} (hopening : IsOpening opening) {x : List Char}
    (hx : ∀ c ∈ x, partsLexemes c = true) (n depth : Nat) : blockCommentLength opening n depth x = none := by
  induction x generalizing n depth with
  | nil => cases n <;> rfl
  | cons c x ih =>
    obtain ⟨hc, hx⟩ := List.forall_mem_cons.mp hx
    have hstar : c ≠ '*' := ne_of_partsLexemes hc (by decide)
    have hparted : Parted x := by
      cases x with
      | nil => rfl
      | cons d x => exact hx d List.mem_cons_self
    have hinner : opening.isPrefixOf x = false := by
      rw [← List.nil_append x, hparted.isPrefixOf_append hopening.solid]
      cases hlist : opening with
      | nil => exact absurd hlist hopening.nonempty
      | cons d rest => rfl
    cases n with
    | zero => rfl
    | succ n => simp [blockCommentLength, hstar, hinner, ih hx]

/-- A comment that closes within a text is the same whatever stands behind the text. -/
theorem blockCommentLength_swap {opening : List Char} (hopening : IsOpening opening) {x z : List Char}
    (hx : Parted x) (hz : Parted z) {n depth : Nat} {p : List Char} {count : Nat}
    (h : blockCommentLength opening n depth (p ++ x) = some count)
    (hwithin : count ≤ p.length ∨ ∀ c ∈ x, partsLexemes c = true) {m : Nat} (hm : p.length ≤ m) :
    count ≤ p.length ∧ blockCommentLength opening m depth (p ++ z) = some count := by
  induction n generalizing p depth count m with
  | zero => cases h
  | succ n ih =>
    cases p with
    | nil =>
      have hpos := blockCommentLength_pos h
      rcases hwithin with hcount | hblank
      · rw [List.length_nil] at hcount
        omega
      · rw [List.nil_append, blockCommentLength_eq_none hopening hblank] at h
        cases h
    | cons c p =>
      obtain ⟨m, rfl⟩ : ∃ k, m = k + 1 := ⟨m - 1, by rw [List.length_cons] at hm; omega⟩
      rw [List.length_cons] at hm hwithin ⊢
      have hslash : partsLexemes '/' = false := by decide
      simp only [List.cons_append, blockCommentLength, hx.head?_eq_some_iff hslash p,
        hx.isPrefixOf_append hopening.solid p] at h
      simp only [List.cons_append, blockCommentLength, hz.head?_eq_some_iff hslash p,
        hz.isPrefixOf_append hopening.solid p]
      split at h
      · rename_i hcloses
        obtain rfl := Option.some.inj h
        rw [if_pos hcloses]
        cases p with
        | nil => simp at hcloses
        | cons d p => exact ⟨by rw [List.length_cons]; omega, rfl⟩
      rename_i hcloses
      rw [if_neg hcloses]
      split at h
      · rename_i hinner
        obtain ⟨k, hk, rfl⟩ := Option.map_eq_some_iff.mp h
        have hlength : opening.length ≤ p.length := (List.isPrefixOf_iff_prefix.mp hinner).length_le
        rw [List.drop_append_of_le_length hlength] at hk
        obtain ⟨hle, hread⟩ := ih hk (hwithin.imp_left fun h => by rw [List.length_drop]; omega) (m := m)
          (by rw [List.length_drop]; omega)
        rw [List.length_drop] at hle
        refine ⟨by omega, ?_⟩
        rw [if_pos hinner, List.drop_append_of_le_length hlength, hread]
        rfl
      · rename_i hinner
        obtain ⟨k, hk, rfl⟩ := Option.map_eq_some_iff.mp h
        obtain ⟨hle, hread⟩ := ih hk (hwithin.imp_left fun h => by omega) (m := m) (by omega)
        refine ⟨by omega, ?_⟩
        rw [if_neg hinner, hread]
        rfl

theorem takeWhile_swap {α : Type} {f : α → Bool} {l x : List α} (h : ((l ++ x).takeWhile f).length < l.length)
    (z : List α) : (l ++ z).takeWhile f = (l ++ x).takeWhile f := by
  rw [List.takeWhile_append] at h ⊢
  rw [List.takeWhile_append]
  split at h
  · rw [List.length_append] at h
    omega
  · rename_i hstops
    rw [if_neg hstops, if_neg hstops]

theorem takeWhile_length_lt {α : Type} {f : α → Bool} {l : List α} (h : ∃ a ∈ l, f a = false) (x : List α) :
    ((l ++ x).takeWhile f).length < l.length := by
  induction l with
  | nil => simp at h
  | cons a l ih =>
    rw [List.cons_append, List.takeWhile_cons]
    cases ha : f a with
    | false => simp
    | true =>
      have hrest : ∃ b ∈ l, f b = false := by simpa [ha] using h
      simpa using ih hrest

/-! Whole pieces. -/

/-- The text is the start of a comment that goes on up to the end of the line. -/
def InLineComment (p : List Char) : Prop :=
  ['-', '-'] <+: p ∧ ∀ c ∈ p, c ≠ '\n' ∧ c ≠ '\r'

section

variable {p x z : List Char} {n : Nat} {piece : Piece}

theorem quotedPiece_swap {quote : Char} (hquote : partsLexemes quote = false) (hx : Seam p x) (hz : Seam p z)
    {kind : TokenKind} {name : String} {escapes : Bool}
    (h : quotedPiece kind name quote escapes 1 (p ++ x) = .ok (piece, n))
    (hwithin : n ≤ p.length ∨ ∀ c ∈ x, partsLexemes c = true) :
    n ≤ p.length ∧ quotedPiece kind name quote escapes 1 (p ++ z) = .ok (piece, n) := by
  obtain ⟨c, p, rfl⟩ := List.exists_cons_of_ne_nil hx.nonempty
  simp only [quotedPiece, List.cons_append, List.drop_succ_cons, List.drop_zero] at h ⊢
  cases hread : readQuoted quote escapes ((p ++ x).length + 1) (p ++ x) with
  | none =>
    rw [hread] at h
    cases h
  | some found =>
    obtain ⟨content, rest⟩ := found
    simp only [hread, Except.ok.injEq, Prod.mk.injEq] at h
    obtain ⟨rfl, rfl⟩ := h
    simp only [List.length_cons, List.length_append] at hwithin ⊢
    have hlength := readQuoted_length hread
    rw [List.length_append] at hlength
    obtain ⟨r, rfl, hswap⟩ := readQuoted_swap hquote hx.parted hz.parted hread
      (hwithin.imp_left fun h => by omega) (m := p.length + z.length + 1) (by omega)
    rw [hswap]
    simp only [List.length_append] at hlength ⊢
    refine ⟨by omega, ?_⟩
    congr 2
    omega

theorem blockPiece_swap (hx : Seam p x) (hz : Seam p z) {afterSelect : Bool}
    (hslash : "/*".toList.isPrefixOf p = true) (h : blockPiece afterSelect (p ++ x) = .ok (piece, n))
    (hwithin : n ≤ p.length ∨ ∀ c ∈ x, partsLexemes c = true) :
    n ≤ p.length ∧ blockPiece afterSelect (p ++ z) = .ok (piece, n) := by
  have hhint : ∀ c ∈ "/*+".toList, partsLexemes c = false := forall_mem_of_all (by decide)
  unfold blockPiece at h ⊢
  rw [hx.parted.isPrefixOf_append hhint] at h
  rw [hz.parted.isPrefixOf_append hhint]
  obtain ⟨opening, hopening⟩ : ∃ w, (if "/*+".toList.isPrefixOf p then "/*+".toList else "/*".toList) = w :=
    ⟨_, rfl⟩
  have hstart : opening.isPrefixOf p = true ∧ IsOpening opening := by
    rw [← hopening]
    split
    · exact ⟨‹_›, by decide, hhint⟩
    · exact ⟨hslash, by decide, forall_mem_of_all (by decide)⟩
  obtain ⟨hstart, hopen⟩ := hstart
  have hlength : opening.length ≤ p.length := (List.isPrefixOf_iff_prefix.mp hstart).length_le
  simp only [hopening, List.drop_append_of_le_length hlength] at h ⊢
  cases hread : blockCommentLength opening (p ++ x).length 1 (p.drop opening.length ++ x) with
  | none =>
    rw [hread] at h
    cases h
  | some count =>
    simp only [hread, Except.ok.injEq, Prod.mk.injEq] at h
    obtain ⟨rfl, rfl⟩ := h
    obtain ⟨hle, hswap⟩ := blockCommentLength_swap hopen hx.parted hz.parted hread
      (hwithin.imp_left fun h => by rw [List.length_drop]; omega) (m := (p ++ z).length)
      (by rw [List.length_drop, List.length_append]; omega)
    rw [List.length_drop] at hle
    rw [hswap]
    exact ⟨by omega, rfl⟩

theorem markedPiece_swap {c quote : Char} (hquote : partsLexemes quote = false) {name : String}
    (h : markedPiece name quote (c :: quote :: p ++ x) = .ok (piece, n))
    (hwithin : n ≤ (c :: quote :: p).length ∨ ∀ c ∈ x, partsLexemes c = true) :
    n ≤ (c :: quote :: p).length ∧ markedPiece name quote (c :: quote :: p ++ z) = .ok (piece, n) := by
  simp only [markedPiece, List.cons_append, List.drop_succ_cons, List.drop_zero, List.length_cons,
    List.length_append] at h hwithin ⊢
  split at h
  · cases h
  · rename_i hcloses
    obtain ⟨rfl, rfl⟩ := Prod.mk.inj (Except.ok.inj h)
    have hlength : ((p ++ x).takeWhile (fun d => decide (d ≠ quote))).length < p.length := by
      rcases hwithin with hn | hblank
      · omega
      · have hpass : ∀ d ∈ x, decide (d ≠ quote) = true := fun d hd => by
          simpa using ne_of_partsLexemes (hblank d hd) hquote
        refine Nat.lt_of_not_le fun hall => hcloses ?_
        rw [List.takeWhile_append] at hall ⊢
        split
        · rw [List.takeWhile_eq_self_iff.mpr hpass, List.length_append]
          omega
        · rename_i hstops
          rw [if_neg hstops] at hall
          exact absurd (Nat.le_antisymm (takeWhile_length_le _ p) hall) hstops
    rw [takeWhile_swap hlength z]
    refine ⟨by omega, ?_⟩
    rw [if_neg (by omega)]

theorem lineCommentLength_swap (hstart : ['-', '-'] <+: p) (hopen : ¬ InLineComment p) :
    lineCommentLength (p ++ x) ≤ p.length ∧ lineCommentLength (p ++ z) = lineCommentLength (p ++ x) := by
  have hends : ∃ c ∈ p, (c ≠ '\n' && c ≠ '\r') = false := by
    refine by_contra fun hnone => hopen ⟨hstart, fun c hc => ?_⟩
    simpa using fun h => hnone ⟨c, hc, h⟩
  have hlength := takeWhile_length_lt hends x
  exact ⟨hlength.le, congrArg List.length (takeWhile_swap hlength z)⟩

theorem markName?_head {c : Char} (hx : Parted x) (p : List Char) :
    (p ++ x).head?.bind (fun q => (markName? c q).map (fun name => (name, q))) =
      p.head?.bind (fun q => (markName? c q).map (fun name => (name, q))) := by
  cases p with
  | cons d p => rfl
  | nil =>
    cases x with
    | nil => rfl
    | cons d x =>
      have hquotes : ∀ q ∈ ['\'', '"'], d ≠ q := fun q hq =>
        ne_of_partsLexemes hx.head
          (forall_mem_of_all (p := fun q => partsLexemes q = false) (by decide) q hq)
      simp only [List.forall_mem_cons] at hquotes
      simp [markName?, hquotes]

theorem markName?_quote {c quote : Char} {name : String} (h : markName? c quote = some name) :
    partsLexemes quote = false := by
  have hquote : quote = '\'' ∨ quote = '"' := by
    refine by_contra fun hne => ?_
    rw [not_or] at hne
    simp [markName?, hne] at h
  rcases hquote with rfl | rfl <;> decide

/-- A piece that ends within a text is the same whatever stands behind the text, and behind a text stand only blanks
and semicolons if no piece of it ends there. -/
theorem scan_swap (hx : Seam p x) (hz : Seam p z) (hopen : ¬ InLineComment p) {afterSelect : Bool}
    (h : scan afterSelect (p ++ x) = .ok (piece, n))
    (hwithin : n ≤ p.length ∨ ∀ c ∈ x, partsLexemes c = true) :
    n ≤ p.length ∧ scan afterSelect (p ++ z) = .ok (piece, n) := by
  have hdashes : ∀ c ∈ "--".toList, partsLexemes c = false := forall_mem_of_all (by decide)
  have hslash : ∀ c ∈ "/*".toList, partsLexemes c = false := forall_mem_of_all (by decide)
  have hdash := hx.parted.isPrefixOf_append hdashes p
  have hdash' := hz.parted.isPrefixOf_append hdashes p
  have hblock := hx.parted.isPrefixOf_append hslash p
  have hblock' := hz.parted.isPrefixOf_append hslash p
  obtain ⟨c, q, hp⟩ := List.exists_cons_of_ne_nil hx.nonempty
  have hcx : p ++ x = c :: (q ++ x) := by rw [hp]; rfl
  have hcz : p ++ z = c :: (q ++ z) := by rw [hp]; rfl
  rw [hcx, scan, ← hcx, hdash, hblock, markName?_head hx.parted] at h
  rw [hcz, scan, ← hcz, hdash', hblock', markName?_head hz.parted]
  by_cases hblank : isBlank c = true
  · rw [if_pos hblank] at h ⊢
    cases q with
    | nil =>
      have hne : isBlank c = false := by simpa [Tight, hp] using hx.tight
      rw [hne] at hblank
      cases hblank
    | cons d q =>
      obtain ⟨rfl, rfl⟩ := Prod.mk.inj (Except.ok.inj h)
      refine ⟨?_, rfl⟩
      rw [hp]
      simp only [List.length_cons]
      split <;> omega
  rw [if_neg hblank] at h ⊢
  by_cases hdigit : isDigitChar c = true
  · rw [if_pos hdigit, hx.parted.numberPiece_append hx.nonempty] at h
    rw [if_pos hdigit, hz.parted.numberPiece_append hx.nonempty]
    have hle := numberPiece_le hx.nonempty
    rw [Except.ok.inj h] at hle
    exact ⟨hle, h⟩
  rw [if_neg hdigit] at h ⊢
  by_cases hback : c = '\x60'
  · rw [if_pos hback] at h ⊢
    exact quotedPiece_swap (hback ▸ by decide) hx hz h hwithin
  rw [if_neg hback] at h ⊢
  by_cases hquote : (c = '\'' || c = '"') = true
  · rw [if_pos hquote] at h ⊢
    have hsolid : partsLexemes c = false := by
      rcases (by simpa using hquote : c = '\'' ∨ c = '"') with rfl | rfl <;> decide
    exact quotedPiece_swap hsolid hx hz h hwithin
  rw [if_neg hquote] at h ⊢
  by_cases hline : "--".toList.isPrefixOf p = true
  · rw [if_pos hline] at h ⊢
    obtain ⟨rfl, rfl⟩ := Prod.mk.inj (Except.ok.inj h)
    obtain ⟨hle, hsame⟩ := lineCommentLength_swap (x := x) (z := z) (List.isPrefixOf_iff_prefix.mp hline) hopen
    exact ⟨hle, by rw [hsame]⟩
  rw [if_neg hline] at h ⊢
  by_cases hstar : "/*".toList.isPrefixOf p = true
  · rw [if_pos hstar] at h ⊢
    exact blockPiece_swap hx hz hstar h hwithin
  rw [if_neg hstar] at h ⊢
  cases hmark : q.head?.bind (fun q => (markName? c q).map (fun name => (name, q))) with
  | some mark =>
    obtain ⟨quote, hquote, hpair⟩ := Option.bind_eq_some_iff.mp hmark
    obtain ⟨name, hname, rfl⟩ := Option.map_eq_some_iff.mp hpair
    obtain ⟨q, rfl⟩ := List.head?_eq_some_iff.mp hquote
    simp only [hmark, hp] at h hwithin ⊢
    exact markedPiece_swap (markName?_quote hname) h hwithin
  | none =>
    simp only [hmark] at h ⊢
    rw [hx.plainPiece_append] at h
    rw [hz.plainPiece_append]
    have hle := hx.plainPiece_le
    rw [Except.ok.inj h] at hle
    exact ⟨hle, h⟩

theorem phraseLength_pos {ps cs : List Char} (hps : ps ≠ []) (h : phraseLength ps cs = some n) : 0 < n := by
  fun_induction phraseLength ps cs with
  | case1 => exact absurd rfl hps
  | case2 => cases h
  | case3 ps cs =>
    rename_i blanks hblanks _
    obtain ⟨m, -, rfl⟩ := Option.map_eq_some_iff.mp h
    exact Nat.add_pos_right m (Nat.pos_of_ne_zero hblanks)
  | case4 =>
    obtain ⟨m, -, rfl⟩ := Option.map_eq_some_iff.mp h
    exact Nat.succ_pos m
  | case5 => cases h
  | case6 => cases h

theorem plainPiece_pos {cs : List Char} (hcs : cs ≠ []) : 0 < (plainPiece cs).2 := by
  have hphrases : ∀ k ∈ phraseKeywords, k.1.toList ≠ [] := by decide
  have hsymbols : ∀ sym ∈ longSymbols, 0 < sym.toList.length := by decide
  unfold plainPiece
  cases hphrase : phraseHere? cs with
  | some found =>
    obtain ⟨k, hk, hlength⟩ := phraseHere?_length hphrase
    exact phraseLength_pos (hphrases k hk) hlength
  | none =>
    cases hsymbol : longSymbols.find? (fun sym => sym.toList.isPrefixOf cs) with
    | some sym => exact hsymbols sym (List.mem_of_find?_eq_some hsymbol)
    | none =>
      obtain ⟨c, rest, rfl⟩ := List.exists_cons_of_ne_nil hcs
      dsimp only [List.head?_cons]
      split
      · exact Nat.one_pos
      · rename_i hhead
        split
        · exact Nat.one_pos
        · unfold wordPiece
          dsimp only
          split <;> simp
      · rename_i hhead
        cases hhead

theorem numberPiece_pos (cs : List Char) : 0 < (numberPiece cs).2 := by
  unfold numberPiece
  dsimp only
  split
  · split <;> dsimp only <;> omega
  · dsimp only
    omega

theorem quotedPiece_pos {kind : TokenKind} {name : String} {quote : Char} {escapes : Bool} {cs : List Char}
    (h : quotedPiece kind name quote escapes 1 cs = .ok (piece, n)) : 0 < n := by
  unfold quotedPiece at h
  dsimp only at h
  split at h
  · cases h
  · rename_i hread
    obtain ⟨-, rfl⟩ := Prod.mk.inj (Except.ok.inj h)
    have hlength := readQuoted_length hread
    rw [List.length_drop] at hlength
    omega

theorem blockPiece_pos {afterSelect : Bool} {cs : List Char} (h : blockPiece afterSelect cs = .ok (piece, n)) :
    0 < n := by
  unfold blockPiece at h
  dsimp only at h
  split at h
  · cases h
  · rename_i hread
    obtain ⟨-, rfl⟩ := Prod.mk.inj (Except.ok.inj h)
    exact Nat.add_pos_right _ (blockCommentLength_pos hread)

theorem markedPiece_pos {name : String} {quote : Char} {cs : List Char}
    (h : markedPiece name quote cs = .ok (piece, n)) : 0 < n := by
  unfold markedPiece at h
  dsimp only at h
  split at h
  · cases h
  · obtain ⟨-, rfl⟩ := Prod.mk.inj (Except.ok.inj h)
    exact Nat.succ_pos _

/-- Each piece takes a character. -/
theorem scan_pos {afterSelect : Bool} {cs : List Char} (hcs : cs ≠ [])
    (h : scan afterSelect cs = .ok (piece, n)) : 0 < n := by
  obtain ⟨c, rest, rfl⟩ := List.exists_cons_of_ne_nil hcs
  rw [scan] at h
  split at h
  · obtain ⟨-, rfl⟩ := Prod.mk.inj (Except.ok.inj h)
    split <;> decide
  split at h
  · have hpos := numberPiece_pos (c :: rest)
    rwa [Except.ok.inj h] at hpos
  split at h
  · exact quotedPiece_pos h
  split at h
  · exact quotedPiece_pos h
  split at h
  · rename_i hdashes
    obtain ⟨-, rfl⟩ := Prod.mk.inj (Except.ok.inj h)
    obtain ⟨tail, htail⟩ := List.isPrefixOf_iff_prefix.mp hdashes
    rw [← htail]
    simp [lineCommentLength]
  split at h
  · exact blockPiece_pos h
  split at h
  · exact markedPiece_pos h
  · have hpos := plainPiece_pos hcs
    rwa [Except.ok.inj h] at hpos

/-! Single characters. -/

theorem scan_blank {c : Char} (hc : isBlank c = true) (afterSelect : Bool) (cs : List Char) :
    scan afterSelect (c :: cs) = .ok (.blank, if c = '\r' && cs.head? = some '\n' then 2 else 1) := by
  rw [scan, if_pos hc]

theorem isBlank_of_isDigitChar {c : Char} (h : isDigitChar c = true) : isBlank c = false := by
  refine Bool.eq_false_iff.mpr fun hblank => ?_
  rw [isDigitChar_of_partsLexemes (by simp [partsLexemes, hblank])] at h
  cases h

theorem scan_digit {c : Char} (hc : isDigitChar c = true) (cs : List Char) (afterSelect : Bool) :
    scan afterSelect (c :: cs) = .ok (numberPiece (c :: cs)) := by
  rw [scan, if_neg (by simp [isBlank_of_isDigitChar hc]), if_pos hc]

theorem Parted.scan_digit_append (hz : Parted z) {c : Char} (hc : isDigitChar c = true) (p : List Char)
    (afterSelect : Bool) : scan afterSelect (c :: p ++ z) = scan afterSelect (c :: p) := by
  rw [List.cons_append, scan_digit hc, scan_digit hc, ← List.cons_append,
    hz.numberPiece_append (List.cons_ne_nil c p)]

theorem scan_semicolon (hz : Parted z) (afterSelect : Bool) :
    scan afterSelect (';' :: z) = .ok (.token .symbol ";" ";", 1) := by
  have hphrases : ∀ k ∈ phraseKeywords, departs k.1.toList [';'] = true := by decide +kernel
  have hseam : ∀ y, Parted y → Seam [';'] y := fun y hy =>
    ⟨List.cons_ne_nil _ _, rfl, hy, fun q hq hne k hk _ => by
      obtain rfl : q = [';'] := by
        rcases List.suffix_cons_iff.mp hq with h | h
        · exact h
        · exact absurd (List.suffix_nil.mp h) hne
      exact phraseLength_of_departs (hphrases k hk) y⟩
  have hscan : scan afterSelect ([';'] ++ []) = .ok (.token .symbol ";" ";", 1) := by
    cases afterSelect <;> rfl
  exact (scan_swap (hseam [] rfl) (hseam z hz) (fun h => absurd h.1 (by decide)) hscan (.inl (by decide))).2

theorem parted_semicolon (z : List Char) : Parted (';' :: z) :=
  (by decide : partsLexemes ';' = true)

end

end QueryGate
