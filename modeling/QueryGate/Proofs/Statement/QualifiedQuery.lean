import Mathlib.Data.List.Infix
import Mathlib.Data.List.Sections
import QueryGate.Proofs.Query.ReadBack
import QueryGate.Proofs.Sql.Stepping
import QueryGate.Proofs.Statement.Accepted
import QueryGate.Proofs.Statement.FirstSource
/-! How a statement is read with a catalog in it. Where the lexer comes to stand at the first `FROM` and its space, the
name of the catalog and a point are read behind it, and all other tokens stay as they were. -/

namespace QueryGate

/-! Runs that differ in tokens far behind. -/

/-- A token behind which neither a statement nor a hint starts. -/
structure IsInner (t : Token) : Prop where
  within : endsStatement t = false
  plain : t.name ≠ "SELECT"

/-- The same tokens in front of an inner token each, of which only the note may change. -/
structure SameFront (old new : Token) (before before' ts ts' : List Token) : Prop where
  inner : IsInner old ∧ IsInner new
  split : ∃ front t t', ts = front ++ t :: before ∧ ts' = front ++ t' :: before' ∧ t.bare = old ∧ t'.bare = new

section

variable {s next : LexState} {old new : Token} {before before' ts ts' : List Token} {piece : Piece} {n : Nat}

theorem SameFront.append (h : SameFront old new before before' ts ts') (front : List Token) :
    SameFront old new before before' (front ++ ts) (front ++ ts') := by
  obtain ⟨hinner, front', t, t', rfl, rfl, ht, ht'⟩ := h
  exact ⟨hinner, front ++ front', t, t', by simp, by simp, ht, ht'⟩

theorem SameFront.noteLast (h : SameFront old new before before' ts ts') :
    SameFront old new before before' (noteLast ts) (noteLast ts') := by
  obtain ⟨hinner, front, t, t', rfl, rfl, ht, ht'⟩ := h
  refine ⟨hinner, ?_⟩
  cases front with
  | nil => exact ⟨[], { t with noted := true }, { t' with noted := true }, rfl, rfl, ht, ht'⟩
  | cons u front => exact ⟨{ u with noted := true } :: front, t, t', rfl, rfl, ht, ht'⟩

theorem SameFront.head (h : SameFront old new before before' ts ts') :
    ts'.head?.any (·.name = "SELECT") = ts.head?.any (·.name = "SELECT") := by
  obtain ⟨⟨hold, hnew⟩, front, t, t', rfl, rfl, rfl, rfl⟩ := h
  cases front with
  | cons u front => rfl
  | nil =>
    have hplain : t.name ≠ "SELECT" ∧ t'.name ≠ "SELECT" := ⟨hold.plain, hnew.plain⟩
    simp [hplain]

/-- With tokens in front, no command opens for what stands behind them. -/
theorem SameFront.atCommand (h : SameFront old new before before' ts ts') {front : List Token} (hne : front ≠ []) :
    (s.withTokens (front ++ ts')).atCommand = (s.withTokens (front ++ ts)).atCommand := by
  obtain ⟨⟨hold, hnew⟩, front', t, t', rfl, rfl, rfl, rfl⟩ := h
  have hends : endsStatement t = false ∧ endsStatement t' = false := ⟨hold.within, hnew.within⟩
  simp only [endsStatement] at hends
  cases front with
  | nil => exact absurd rfl hne
  | cons u front =>
    cases front with
    | cons v front => rfl
    | nil =>
      cases front' with
      | cons v front' => rfl
      | nil => simp [LexState.atCommand, LexState.withTokens, hends]

/-- What a piece does to the tokens: some are put in front, or the last one is noted. -/
theorem LexState.pass_withTokens (s : LexState) (piece : Piece) (n : Nat) :
    (∃ front, ∀ ts, (s.withTokens ts).pass piece n = (s.pass piece n).withTokens (front ++ ts)) ∨
      ∀ ts, (s.withTokens ts).pass piece n = (s.pass piece n).withTokens (noteLast ts) := by
  cases piece with
  | blank => exact .inl ⟨[], fun ts => rfl⟩
  | comment =>
    by_cases h : s.lastLine = some s.line
    · exact .inr fun ts => by simp [pass, comment, skip, withTokens, h]
    · exact .inl ⟨[], fun ts => by simp [pass, comment, skip, withTokens, h]⟩
  | tokens found => exact .inl (foldl_add_withTokens found (s.skip n))

theorem LexState.Advances.alongside (h : s.Advances next) (hs : SameFront old new before before' s.tokens ts') :
    ∃ us', SameFront old new before before' next.tokens us' ∧ (s.withTokens ts').Advances (next.withTokens us') := by
  obtain ⟨piece, n, hscan, rfl⟩ := step_eq_ok h.step
  have hscan' : scan ((s.withTokens ts').tokens.head?.any (·.name = "SELECT")) (s.withTokens ts').rest = .ok (piece, n) := by
    rw [← hscan]
    exact congrArg (scan · s.rest) hs.head
  have hstep := step_of_scan hscan'
  have hplain := h.plain
  rcases s.pass_withTokens piece n with ⟨front, hpass⟩ | hpass
  · have hnext : (s.pass piece n).tokens = front ++ s.tokens := congrArg LexState.tokens (hpass s.tokens)
    rw [hpass] at hstep
    refine ⟨front ++ ts', hnext ▸ hs.append front, h.more, hstep, ?_⟩
    rw [Bool.and_eq_true, decide_eq_true_eq] at hplain ⊢
    rintro ⟨hmore, hcommand⟩
    have hne : front ≠ [] := by
      rintro rfl
      exact Nat.lt_irrefl _ hmore
    rw [hs.atCommand hne, ← hpass] at hcommand
    refine hplain ⟨?_, hcommand⟩
    rw [hnext, List.length_append]
    exact Nat.lt_add_of_pos_left (List.length_pos_iff.mpr hne)
  · have hnext : (s.pass piece n).tokens = noteLast s.tokens := congrArg LexState.tokens (hpass s.tokens)
    rw [hpass] at hstep
    refine ⟨noteLast ts', hnext ▸ hs.noteLast, h.more, hstep, ?_⟩
    rw [Bool.and_eq_true, decide_eq_true_eq]
    rintro ⟨hmore, -⟩
    have hsame : (noteLast ts').length = ts'.length := by
      cases ts' <;> rfl
    exact absurd hmore (by simp [withTokens, hsame])

/-- A run is the same with other tokens far behind. -/
theorem LexState.Reaches.alongside {t : LexState} (h : s.Reaches t)
    (hs : SameFront old new before before' s.tokens ts') :
    ∃ us', SameFront old new before before' t.tokens us' ∧ (s.withTokens ts').Reaches (t.withTokens us') := by
  induction h using Relation.ReflTransGen.head_induction_on generalizing ts' with
  | refl => exact ⟨ts', hs, .refl⟩
  | head hstep _ ih =>
    obtain ⟨us', hus, hadvances⟩ := hstep.alongside hs
    obtain ⟨vs', hvs, hreaches⟩ := ih hus
    exact ⟨vs', hvs, .head hadvances hreaches⟩

end

/-! The word and the name behind it. -/

/-- What a spelling of the word `FROM` is read as. -/
def fromToken (word : List Char) : Token :=
  ⟨.keyword, String.ofList word, "FROM", false⟩

/-- One of the spellings of the word `FROM`. -/
structure IsFromWord (word : List Char) : Prop where
  start : word.head?.any isNameStart = true
  letters : ∀ c ∈ word, isWordChar c = true
  lexeme : wordLexeme (String.ofList word) = fromToken word
  phrase : ∀ k ∈ phraseKeywords, phraseFront k.1 ≠ upperChars word
  last : word.getLast?.map upperChar = some ['M']

theorem SpellsFrom.word {found : List Char} (h : SpellsFrom found) : ∃ word, found = word ++ [' '] ∧ IsFromWord word := by
  have hall : ∀ found ∈ List.sections fromForms, found = found.dropLast ++ [' '] ∧
      found.dropLast.head?.any isNameStart = true ∧ found.dropLast.all isWordChar = true ∧
      wordLexeme (String.ofList found.dropLast) = fromToken found.dropLast ∧
      (∀ k ∈ phraseKeywords, phraseFront k.1 ≠ upperChars found.dropLast) ∧
      found.dropLast.getLast?.map upperChar = some ['M'] := by
    decide +kernel
  obtain ⟨hsplit, hstart, hletters, hlexeme, hphrase, hlast⟩ := hall found (List.mem_sections.mpr h.flip)
  exact ⟨found.dropLast, hsplit, hstart, List.all_eq_true.mp hletters, hlexeme, hphrase, hlast⟩

theorem not_lineEnd_of_isWordChar {cs : List Char} (h : ∀ c ∈ cs, isWordChar c = true) : ∀ c ∈ cs, c ≠ '\n' ∧ c ≠ '\r' := by
  refine fun c hc => ⟨?_, ?_⟩ <;>
  · rintro rfl
    exact absurd (h _ hc) (by decide)

/-- Nothing goes on behind the word and its space: no phrase has a word that ends with its last letter. -/
theorem IsFromWord.seam {front word : List Char} (h : IsFromWord word) (cs : List Char) :
    Seam (front ++ word) (' ' :: cs) := by
  have hnext : ∀ k ∈ phraseKeywords, ∀ ps ∈ k.1.toList.tails, ps.head? = some 'M' → ps.tail.head? ≠ some ' ' := by
    decide +kernel
  obtain ⟨d, hd, hupper⟩ := Option.map_eq_some_iff.mp h.last
  have hne : word ≠ [] := by
    rintro rfl
    cases hd
  have hlast : (front ++ word).getLast? = some d := by
    rw [List.getLast?_append_of_ne_nil _ hne, hd]
  have hblank : isBlank d = false := isBlank_of_isWordChar (h.letters d (List.mem_of_getLast? hd))
  refine .of_phrases (by simp [hne]) (by simp [Tight, hlast, hblank]) (by simp [Parted, partsLexemes]; decide) ?_
  intro e he k hk c more hmore hmorene hc
  obtain rfl : d = e := Option.some.inj (hlast.symm.trans he)
  obtain rfl : 'M' = c := (List.cons.inj (hupper.symm.trans hc)).1
  obtain ⟨p, more, rfl⟩ := List.exists_cons_of_ne_nil hmorene
  have hp : p ≠ ' ' := by
    rintro rfl
    exact hnext k hk _ ((List.mem_tails _ _).mpr hmore) rfl rfl
  have hspace : upperChar ' ' ≠ [p] := fun h => hp (List.cons.inj h).1.symm
  rw [phraseLength, if_neg hspace]
  exact hp

theorem LexState.reaches_from {s : LexState} {word y : List Char} (h : IsFromWord word) (hs : s.rest = word ++ ' ' :: y) :
    s.Reaches ⟨y, s.line, { fromToken word with noted := s.pending } :: s.tokens, false, some s.line⟩ := by
  have hne : word ≠ [] := by
    rintro rfl
    exact absurd h.start (by decide)
  have hscan : ∀ afterSelect, scan afterSelect (word ++ ' ' :: y) =
      .ok (.token .keyword (String.ofList word) "FROM", word.length) := by
    intro afterSelect
    have hword := scan_word h.start h.letters
      ⟨show (' ' :: y).head?.all isBreak = true from rfl, fun k hk hfront => absurd hfront (h.phrase k hk)⟩ afterSelect
    rwa [h.lexeme] at hword
  have hread := reaches_token hne (not_lineEnd_of_isWordChar h.letters) hscan
    (fun h => absurd h Bool.false_ne_true) hs
  exact hread.trans (reaches_space rfl)

/-- A name that may stand bare for a catalog, and in which no denied word is. -/
structure IsPlainCatalog (catalog : String) : Prop where
  bare : isBareName catalog.toList = true
  free : isFreeName catalog = true
  clear : findDenied defaultDenied catalog = none

/-- The name of a catalog and its point are read in front of whatever stands there. -/
theorem LexState.reaches_catalog {s : LexState} {catalog : String} (h : IsPlainCatalog catalog) {y : List Char}
    (hs : s.rest = catalog.toList ++ '.' :: y) (hpending : s.pending = false)
    (hinside : s.tokens.head?.all endsStatement = false) :
    s.Reaches ⟨y, s.line, symbolToken "." :: writtenToken catalog :: s.tokens, false, some s.line⟩ := by
  obtain ⟨hletters, -, -⟩ := isFreeName_of_bare h.free h.bare
  have hstart : catalog.toList.head?.any isNameStart = true := by
    have hbare := h.bare
    revert hbare
    cases catalog.toList <;> simp +contextual [isBareName]
  have hne : catalog.toList ≠ [] := by
    intro hnil
    simp [hnil] at hstart
  have hlexeme : wordLexeme (String.ofList catalog.toList) = writtenToken catalog := by
    rw [String.ofList_toList, writtenToken, if_pos h.bare]
  have hscan : ∀ afterSelect, scan afterSelect (catalog.toList ++ '.' :: y) =
      .ok (.token (writtenToken catalog).kind (writtenToken catalog).text (writtenToken catalog).name,
        catalog.toList.length) := by
    intro afterSelect
    have hword := scan_word hstart hletters (Breaks.after (breaks_symbol (by decide : '.' ∈ _) y) _) afterSelect
    rwa [hlexeme] at hword
  have hpoint : ∀ afterSelect, scan afterSelect (['.'] ++ y) = .ok (.token .symbol "." ".", 1) :=
    fun afterSelect => scan_mark (by decide) y afterSelect
  have hname := reaches_token hne (not_lineEnd_of_isWordChar hletters) hscan (fun _ => hinside) hs
  have hread := hname.trans
    (reaches_token (List.cons_ne_nil '.' []) (forall_mem_of_all (by decide)) hpoint (fun h => absurd h (by decide)) rfl)
  have hnoted : (⟨(writtenToken catalog).kind, (writtenToken catalog).text, (writtenToken catalog).name, s.pending⟩ : Token) =
      writtenToken catalog := by
    rw [hpending, ← writtenToken_noted catalog]
  rw [hnoted] at hread
  exact hread

/-! The tokens. -/

/-- The lexer comes to stand in front of this part of a text, and no command opens before it. -/
def ReadsUpTo (cs part : List Char) : Prop :=
  ∃ s, (LexState.start cs).Reaches s ∧ s.rest = part

/-- Whether the lexer comes to this part of the text in so many steps. -/
def LexState.comesTo (part : List Char) : Nat → LexState → Bool
  | 0, s => s.rest = part
  | fuel + 1, s =>
    if s.rest = part then true
    else if s.rest.isEmpty then false
    else
      match s.step with
      | .error _ => false
      | .ok next => if s.tokens.length < next.tokens.length && next.atCommand then false else comesTo part fuel next

/-- Where the lexer does not stand at a part, it comes to it just if it does after one more step. -/
theorem LexState.exists_reaches_iff {part : List Char} {s : LexState} (h : s.rest ≠ part) :
    (∃ t, s.Reaches t ∧ t.rest = part) ↔ ∃ next, s.Advances next ∧ ∃ t, next.Reaches t ∧ t.rest = part := by
  constructor
  · rintro ⟨t, ht, hpart⟩
    rcases Relation.ReflTransGen.cases_head ht with rfl | ⟨next, hnext, ht⟩
    · exact absurd hpart h
    · exact ⟨next, hnext, t, ht, hpart⟩
  · exact fun ⟨next, hnext, t, ht, hpart⟩ => ⟨t, .head hnext ht, hpart⟩

theorem LexState.comesTo_iff {part : List Char} {n : Nat} {s : LexState} (hn : s.rest.length ≤ n) :
    s.comesTo part n = true ↔ ∃ t, s.Reaches t ∧ t.rest = part := by
  fun_induction comesTo part n s with
  | case1 s =>
    have hnil : s.rest = [] := List.length_eq_zero_iff.mp (Nat.le_zero.mp hn)
    by_cases h : s.rest = part
    · exact iff_of_true (decide_eq_true h) ⟨s, .refl, h⟩
    · exact iff_of_false (by simpa using h) fun hreach => by
        obtain ⟨next, hnext, -⟩ := (exists_reaches_iff h).mp hreach
        exact hnext.more hnil
  | case2 n s h => exact iff_of_true rfl ⟨s, .refl, h⟩
  | case3 n s h hempty =>
    refine iff_of_false Bool.false_ne_true fun hreach => ?_
    obtain ⟨next, hnext, -⟩ := (exists_reaches_iff h).mp hreach
    exact hnext.more (by simpa using hempty)
  | case4 n s h hempty e hstep =>
    refine iff_of_false Bool.false_ne_true fun hreach => ?_
    obtain ⟨next, hnext, -⟩ := (exists_reaches_iff h).mp hreach
    cases hstep.symm.trans hnext.step
  | case5 n s h hempty next hstep hcommand =>
    refine iff_of_false Bool.false_ne_true fun hreach => ?_
    obtain ⟨next', hnext, -⟩ := (exists_reaches_iff h).mp hreach
    obtain rfl := Except.ok.inj (hstep.symm.trans hnext.step)
    exact hnext.plain hcommand
  | case6 n s h hempty next hstep hplain ih =>
    have hmore : s.rest ≠ [] := by simpa using hempty
    have hlt := step_rest hstep hmore
    rw [exists_reaches_iff h, ih (by omega)]
    constructor
    · exact fun hreach => ⟨next, ⟨hmore, hstep, hplain⟩, hreach⟩
    · rintro ⟨next', hnext, hreach⟩
      obtain rfl := Except.ok.inj (hstep.symm.trans hnext.step)
      exact hreach

instance (cs part : List Char) : Decidable (ReadsUpTo cs part) :=
  decidable_of_iff ((LexState.start cs).comesTo part cs.length = true) (LexState.comesTo_iff (Nat.le_refl _))

theorem IsFirstFrom.toList_injectCatalog {sql : String} {before rest : List Char}
    (h : IsFirstFrom sql.toList before rest) (catalog : String) :
    (injectCatalog catalog sql).toList = before ++ catalog.toList ++ '.' :: rest := by
  rcases injectCatalog_cases catalog sql with ⟨hnone, -⟩ | ⟨other, rest', hother, hout⟩
  · obtain ⟨found, hfound, hends⟩ := h.ends
    have hbefore : before <:+: sql.toList := ⟨[], rest, h.split.symm⟩
    exact absurd ⟨found, hfound, hends.isInfix.trans hbefore⟩ hnone
  · have hle := h.least other ⟨rest', hother.split.symm⟩ hother.ends
    have hge := hother.least before ⟨rest, h.split.symm⟩ h.ends
    obtain rfl := hle.eq_of_length_le hge.length_le
    obtain rfl := List.append_cancel_left (h.split.symm.trans hother.split)
    exact hout

theorem LexState.start_withRest (cs ds : List Char) : (LexState.start cs).withRest ds = .start ds :=
  rfl

/-- The tokens at the end of a text, the last one first. -/
theorem SameFront.read {t : LexState} {old new : Token} {before before' us' : List Token}
    (h : SameFront old new before before' t.tokens us') :
    SameFront old new before before' t.read.reverse (t.withTokens us').read.reverse := by
  unfold LexState.read
  rw [List.reverse_reverse, List.reverse_reverse]
  cases hpending : t.pending with
  | false => simpa [LexState.withTokens, hpending] using h
  | true => simpa [LexState.withTokens, hpending] using h.noteLast

/-- The tokens of a text, and of the text with a catalog behind its first `FROM`. -/
theorem tokenize_qualified {sql catalog : String} {front word rest : List Char} {ts : List Token}
    (hfirst : IsFirstFrom sql.toList (front ++ (word ++ [' '])) rest) (hword : IsFromWord word)
    (hreads : ReadsUpTo sql.toList (word ++ ' ' :: rest)) (hcatalog : IsPlainCatalog catalog)
    (htokens : tokenize sql = .ok ts) (hplain : ¬ HoldsCommand ts) : ∃ before after from_ from' point,
      ts = before ++ from_ :: after ∧
      tokenize (injectCatalog catalog sql) = .ok (before ++ from' :: writtenToken catalog :: point :: after) ∧
      from_.bare = fromToken word ∧ from'.bare = fromToken word ∧ point.bare = symbolToken "." := by
  have hsql : sql.toList = front ++ word ++ ' ' :: rest := by simpa using hfirst.split
  have hout : (injectCatalog catalog sql).toList = front ++ word ++ ' ' :: (catalog.toList ++ '.' :: rest) := by
    simpa using hfirst.toList_injectCatalog catalog
  have hne : word ≠ [] := by
    rintro rfl
    exact absurd hword.start (by decide)
  obtain ⟨t, ht, htrest, rfl⟩ := reaches_of_tokenize htokens hplain
  obtain ⟨s, hs, hsrest⟩ := hreads
  -- Up to the word both texts are read alike, and behind it the catalog is read before the rest.
  have hswap := hs.swap hsql hsrest hne (hword.seam rest) (hword.seam (catalog.toList ++ '.' :: rest))
  rw [LexState.start_withRest, ← hout] at hswap
  have hfrom := LexState.reaches_from hword hsrest
  have hfrom' := LexState.reaches_from (s := s.withRest (word ++ ' ' :: (catalog.toList ++ '.' :: rest))) hword rfl
  have hname := hfrom'.trans (LexState.reaches_catalog hcatalog rfl rfl rfl)
  have hsame : SameFront (fromToken word) (symbolToken ".") s.tokens
      (writtenToken catalog :: { fromToken word with noted := s.pending } :: s.tokens)
      ({ fromToken word with noted := s.pending } :: s.tokens)
      (symbolToken "." :: writtenToken catalog :: { fromToken word with noted := s.pending } :: s.tokens) :=
    ⟨⟨⟨rfl, fun h => absurd h (by decide : "FROM" ≠ "SELECT")⟩, ⟨by decide, by decide⟩⟩, [], _, _, rfl, rfl, rfl, rfl⟩
  have honward := LexState.Reaches.onward (hs.trans hfrom) ht htrest
  obtain ⟨us', hus, hreaches⟩ := honward.alongside hsame
  have hread := tokenize_of_reaches (hswap.trans (hname.trans hreaches)) htrest
  rw [String.ofList_toList] at hread
  obtain ⟨-, after, from_, point, hts, hts', hfrom_, hpoint⟩ := hus.read
  refine ⟨s.tokens.reverse, after.reverse, from_, { fromToken word with noted := s.pending }, point, ?_, ?_, hfrom_, rfl,
    hpoint⟩
  · rw [← List.reverse_reverse t.read, hts]
    simp
  · rw [hread, ← List.reverse_reverse (t.withTokens us').read, hts']
    simp only [List.reverse_append, List.reverse_cons, List.append_assoc, List.cons_append, List.nil_append]

/-! The query. -/

theorem anyKindIn_names (path : List String) : anyKindIn Kind.changesData (path.map nameTree) = false := by
  rw [← Bool.not_eq_true, anyKindIn_iff]
  rintro ⟨t, ht, hdata⟩
  obtain ⟨name, -, rfl⟩ := List.mem_map.mp ht
  cases hdata

/-- A query is accepted whichever table it reads from. -/
theorem Select.judge_treeFrom {s : Select} {path : List String} {t : Tree} (h : judge [s.treeFrom path] = .ok t)
    (other : List String) : judge [s.treeFrom other] = .ok (s.treeFrom other) := by
  have hsource : ∀ path, (s.treeFrom path).anyKind Kind.changesData =
      anyKindIn Kind.changesData (.node (.clause .projections) "" (s.projections.map (·.tree)) :: s.clauses.map (·.tree)) := by
    intro path
    simp [Select.treeFrom, Select.headTrees, Tree.anyKind, anyKindIn, anyKindIn_names, Kind.changesData]
  obtain ⟨-, -, hdata⟩ := judge_eq_ok_iff.mp h
  obtain rfl := judge_eq_self h
  exact judge_eq_ok_iff.mpr ⟨rfl, rfl, by rw [hsource other, ← hsource path, hdata]⟩

/-- In the tokens of a query stands one `FROM`, in front of its table. -/
theorem Select.tokens_from {s : Select} (hs : s.IsNamed) {a b : List Token} {word : List Char}
    (h : s.tokens = a ++ fromToken word :: b) (catalog : String) :
    a ++ fromToken word :: writtenToken catalog :: symbolToken "." :: b = s.tokensFrom [catalog, s.database, s.table] := by
  obtain ⟨hfront, hback⟩ := Select.all_parts hs
  have hfrom : isPartToken (fromToken word) = false := by
    simp [isPartToken, isKeyword, fromToken]
  have hout : ∀ ts : List Token, ts.all isPartToken = true → fromToken word ∉ ts := by
    intro ts hall hmem
    rw [List.all_eq_true.mp hall _ hmem] at hfrom
    cases hfrom
  rw [s.tokens_parts, List.append_cons_inj_of_notMem (hout _ hfront) (hout _ hback)] at h
  obtain ⟨rfl, hword, rfl⟩ := h
  rw [← hword]
  simp [Select.tokensFrom, Select.headTokens, sourceTokens, tableTokens, separatedTokens]

/-- A query with names of its own reads from its table in the catalog. -/
theorem Select.judge_qualified {s : Select} (hs : s.IsNamed) {catalog : String} (hfree : isFreeName catalog = true)
    (honly : toUpperText catalog ≠ "ONLY") {before after : List (List Token)} {t : Tree}
    (h : judgeStatements (before ++ s.tokens :: after) = .ok t) :
    t = s.tree ∧ judgeStatements (before ++ s.tokensFrom [catalog, s.database, s.table] :: after) =
      .ok (s.treeFrom [catalog, s.database, s.table]) := by
  have hpath : IsPath [catalog, s.database, s.table] :=
    ⟨⟨catalog, s.database, [s.table], rfl⟩, by simp [hfree, hs.database, hs.table], by simpa using honly⟩
  obtain ⟨hjudge, hnew⟩ :=
    judgeStatements_replace (s.parseStatement_tokens hs) (s.parseStatement_tokensFrom hs hpath) h
  refine ⟨(judge_eq_self hjudge).symm, hnew.trans ?_⟩
  rw [s.tree_eq] at hjudge
  exact s.judge_treeFrom hjudge _

/-- Where the lexer comes to stand at the first `FROM` and its space, an accepted text is accepted with a catalog just if
it is with the tokens of the catalog and a point behind that word. What is read as the table hangs on the grammar, and in
a query that is put together from names it is the table of the query, in the catalog, and nothing else is changed. -/
theorem injectCatalog_read {sql catalog : String} {t : Tree} {ts : List Token} {front word rest : List Char}
    (haccepted : validate defaultDenied sql = .ok t) (htokens : tokenize sql = .ok ts) (hplain : ¬ HoldsCommand ts)
    (hfirst : IsFirstFrom sql.toList (front ++ (word ++ [' '])) rest) (hfound : SpellsFrom (word ++ [' ']))
    (hreads : ReadsUpTo sql.toList (word ++ ' ' :: rest)) (hcatalog : IsPlainCatalog catalog) :
    ∃ before a b after, splitStatements ts = before ++ (a ++ fromToken word :: b) :: after ∧
      judgeStatements (before ++ (a ++ fromToken word :: b) :: after) = .ok t ∧
      validate defaultDenied (injectCatalog catalog sql) = judgeStatements
        (before ++ (a ++ fromToken word :: writtenToken catalog :: symbolToken "." :: b) :: after) ∧
      ∀ s : Select, s.IsNamed → toUpperText catalog ≠ "ONLY" → s.tokens = a ++ fromToken word :: b →
        t = s.tree ∧ validate defaultDenied (injectCatalog catalog sql) =
          .ok (s.treeFrom [catalog, s.database, s.table]) := by
  have hclear := validate_ok_clear haccepted
  obtain ⟨word', hsame, hword⟩ := hfound.word
  obtain ⟨rfl, -⟩ := List.append_inj' hsame rfl
  obtain ⟨ahead, behind, from_, from', point, rfl, hqualified, hfrom, hfrom', hpoint⟩ :=
    tokenize_qualified hfirst hword hreads hcatalog htokens hplain
  -- None of the tokens in question ends a statement, so that each only stands in front of what is behind it.
  obtain ⟨before, a, hsplit⟩ := exists_last_statement ahead
  obtain ⟨b, after, hbehind⟩ := List.exists_cons_of_ne_nil (splitStatements_ne_nil behind)
  have hinner : ∀ {u v : Token}, u.bare = v → isSymbol ";" v = false → isSymbol ";" u = false := by
    rintro u v rfl h
    exact h
  have hmark : isSymbol ";" (fromToken word) = false := rfl
  have hcatalogMark := (isName_writtenToken hcatalog.free).isSymbol_eq_false ";"
  have hold := splitStatements_other (hinner hfrom hmark) hbehind
  have hnew := splitStatements_other (hinner hfrom' hmark)
    (splitStatements_other hcatalogMark (splitStatements_other (hinner hpoint (by decide)) hbehind))
  have hbare : (writtenToken catalog).bare = writtenToken catalog := by
    rw [Token.bare, ← writtenToken_noted catalog]
  rw [hfrom] at hold
  rw [hfrom', hbare, hpoint] at hnew
  have hstatements := splitStatements_append hsplit hold
  rw [validate_eq_judgeStatements hclear htokens, hstatements] at haccepted
  have hout : validate defaultDenied (injectCatalog catalog sql) = judgeStatements
      (before ++ (a ++ fromToken word :: writtenToken catalog :: symbolToken "." :: b) :: after) := by
    rw [validate_eq_judgeStatements (injectCatalog_clear hcatalog.clear hclear) hqualified,
      splitStatements_append hsplit hnew]
  refine ⟨before, a, b, after, hstatements, haccepted, hout, fun s hs honly hquery => ?_⟩
  rw [← hquery] at haccepted
  rw [hout, Select.tokens_from hs hquery catalog]
  exact s.judge_qualified hs hcatalog.free honly haccepted

theorem injectCatalog_read_filtered :
    let sql := "SELECT xfrom, a FROM s.t WHERE a = 'from x'"
    let s : Select := ⟨[⟨.named "xfrom", none, none⟩, ⟨.named "a", none, none⟩], "s", "t",
      some (.test (.compare (.named "a") .equal "from x")), [], none, none⟩
    (∃ t, validate defaultDenied sql = .ok t) ∧ (∃ ts, tokenize sql = .ok ts ∧ ¬ HoldsCommand ts) ∧
      IsFirstFrom sql.toList ("SELECT xfrom, a ".toList ++ ("FROM".toList ++ [' '])) "s.t WHERE a = 'from x'".toList ∧
      SpellsFrom ("FROM".toList ++ [' ']) ∧ ReadsUpTo sql.toList ("FROM".toList ++ ' ' :: "s.t WHERE a = 'from x'".toList) ∧
      IsPlainCatalog "main" ∧ toUpperText "main" ≠ "ONLY" ∧
      validate defaultDenied (injectCatalog "main" sql) = .ok (s.treeFrom ["main", "s", "t"]) := by
  intro sql s
  have hs : s.IsNamed := by
    constructor <;> decide +kernel
  have hfirst : IsFirstFrom sql.toList ("SELECT xfrom, a ".toList ++ ("FROM".toList ++ [' ']))
      "s.t WHERE a = 'from x'".toList := isFirstFrom_of_split (by decide +kernel)
  have hfound : SpellsFrom ("FROM".toList ++ [' ']) :=
    .cons (by decide) (.cons (by decide) (.cons (by decide) (.cons (by decide) (.cons (by decide) .nil))))
  have hreads : ReadsUpTo sql.toList ("FROM".toList ++ ' ' :: "s.t WHERE a = 'from x'".toList) := by decide +kernel
  have hcatalog : IsPlainCatalog "main" := by
    constructor <;> decide +kernel
  have honly : toUpperText "main" ≠ "ONLY" := by decide +kernel
  -- The text is that of the query, so that its tokens are known.
  have hsql : s.text = sql := by decide +kernel
  have hreread : s.reread = s := by decide +kernel
  have htokens : tokenize sql = .ok s.tokens := by
    rw [← hsql, s.tokenize_text hs, hreread]
  have hplain : ¬ HoldsCommand s.tokens := not_holdsCommand (by decide +kernel)
  have hstatements := splitStatements_eq_self (Select.isUnsplit_tokens hs)
  have haccepted : validate defaultDenied sql = .ok s.tree := by
    rw [validate_eq_judgeStatements (by decide +kernel) htokens, hstatements, judgeStatements, List.mapM_cons,
      s.parseStatement_tokens hs, List.mapM_nil]
    exact judge_eq_ok_iff.mpr ⟨rfl, rfl, by decide +kernel⟩
  obtain ⟨before, a, b, after, hsplit, -, -, hnamed⟩ :=
    injectCatalog_read haccepted htokens hplain hfirst hfound hreads hcatalog
  have hone := hsplit.symm.trans hstatements
  obtain ⟨-, hquery, -⟩ : before = [] ∧ a ++ fromToken "FROM".toList :: b = s.tokens ∧ after = [] := by
    simpa [List.append_eq_singleton_iff] using hone
  exact ⟨⟨s.tree, haccepted⟩, ⟨s.tokens, htokens, hplain⟩, hfirst, hfound, hreads, hcatalog, honly,
    (hnamed s hs honly hquery.symm).2⟩

/-- The end of a name and the space behind it are taken for the word, and what comes of it is not accepted. -/
theorem injectCatalog_insideName : (validate defaultDenied "SELECT xfrom FROM s.t").isOk = true ∧
    injectCatalog "main" "SELECT xfrom FROM s.t" = "SELECT xfrom main.FROM s.t" ∧
    (validate defaultDenied (injectCatalog "main" "SELECT xfrom FROM s.t")).isOk = false := by
  decide +kernel

end QueryGate
