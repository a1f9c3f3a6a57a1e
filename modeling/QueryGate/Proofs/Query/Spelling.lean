import QueryGate.Proofs.Query.Reread
import QueryGate.Proofs.Text.Spacing
import QueryGate.Sql.Grammar.Call
/-! A query as data is written with the tokens of its parts: its text is split into them again, with each value
as it is read. -/

namespace QueryGate

open Grammar

/-! Names that stand for themselves. -/

/-- Keywords that may be names, but not wherever a name may stand. They are literals, functions that are called
without parentheses, types with others inside, and words that start something else. -/
def takenKeywords : List String :=
  ["ALL", "ANY", "BEGIN", "CASE", "CUBE", "DESCRIBE", "FALSE", "INTERVAL", "LIMIT", "LOCK", "NULL", "OFFSET", "ROLLUP",
    "TRUE", "WINDOW"] ++ clockKeywords ++ nestedTypes

/-- A keyword that is a name wherever one may stand. -/
def isFreeKeyword (name : String) : Bool :=
  nameKeywords.contains name && !takenKeywords.contains name

/-- A name that is in backticks, or that the dialect reads as a name wherever one may stand. -/
def isFreeName (name : String) : Bool :=
  toUpperText name ≠ "VALUES" && (!isBareName name.toList ||
    (name.toList.all isWordChar && (keywordName? (toUpperText name)).all isFreeKeyword
      && (wordExpression? (wordToken name)).isNone))

theorem isFreeName_of_bare {name : String} (hname : isFreeName name = true)
    (hbare : isBareName name.toList = true) : (∀ c ∈ name.toList, isWordChar c = true) ∧
      (∀ k ∈ keywordName? (toUpperText name), isFreeKeyword k = true) ∧ wordExpression? (wordToken name) = none := by
  simp only [isFreeName, hbare, Bool.not_true, Bool.false_or, Bool.and_eq_true, List.all_eq_true, Option.all_eq_true,
    Option.isNone_iff_eq_none] at hname
  obtain ⟨-, ⟨hword, hkeyword⟩, hexpression⟩ := hname
  exact ⟨hword, hkeyword, hexpression⟩

theorem writtenToken_text (name : String) : (writtenToken name).text = name := by
  unfold writtenToken wordLexeme
  split
  · split <;> rfl
  · rfl

def ColumnRef.isFree : ColumnRef → Bool
  | .star => true
  | .named name => isFreeName name

/-- A column and a name for it that are a phrase together: `version AS of` or `timestamp AS of`. -/
def isAsOfPhrase (column : ColumnRef) (name : String) : Bool :=
  ["VERSION".toList, "TIMESTAMP".toList].contains (upperChars column.chars)
    && upperChars (nameChars name) = "OF".toList

def Projection.isFree (p : Projection) : Bool :=
  p.column.isFree && p.outputName.all fun name =>
    isFreeName name && (p.aggregation.isSome || !isAsOfPhrase p.column name)

/-- A predicate whose column stands for itself, with a value in its list. -/
def Predicate.isNamed (p : Predicate) : Bool :=
  p.column.isFree && p.isComplete

theorem Predicate.isNamed_iff {p : Predicate} :
    p.isNamed = true ↔ p.column.isFree = true ∧ p.isComplete = true :=
  Bool.and_eq_true_iff

def Condition.isNamed (c : Condition) : Bool :=
  c.predicates.all (·.isNamed)

/-- A query whose names stand for themselves, with at least one projection. -/
structure Select.IsNamed (s : Select) : Prop where
  projections : s.projections ≠ []
  projection : ∀ p ∈ s.projections, p.isFree = true
  database : isFreeName s.database = true
  /-- The word `ONLY` may stand in front of a table. -/
  only : toUpperText s.database ≠ "ONLY"
  table : isFreeName s.table = true
  condition : ∀ c ∈ s.condition, c.isNamed = true
  group : ∀ column ∈ s.group, column.isFree = true
  order : ∀ o ∈ s.order, o.1.isFree = true

theorem Select.IsNamed.reread {s : Select} (h : s.IsNamed) : s.reread.IsNamed where
  projections := h.projections
  projection := h.projection
  database := h.database
  only := h.only
  table := h.table
  condition := by
    intro c hc
    obtain ⟨c, hmem, rfl⟩ := Option.map_eq_some_iff.mp hc
    have hnamed := h.condition c hmem
    simpa [Condition.isNamed, Predicate.isNamed] using hnamed
  group := h.group
  order := h.order

/-! Words, which are the same in every query. -/

def fixedWords : List Token :=
  ["SELECT", "AS", "FROM", "WHERE", "AND", "OR", "NOT", "IS", "NULL", "IN", "LIKE", "ILIKE", "BETWEEN",
    "ASC", "DESC", "LIMIT"].map keywordToken
  ++ ["COUNT", "SUM", "AVG", "MIN", "MAX", "REGEXP_LIKE", "NULLS", "LAST"].map wordToken

theorem Lexes.fixed {t : Token} (ht : t ∈ fixedWords) {cs : List Char} {ts : List Token}
    (hcs : cs.head?.all isBreak = true) (h : Lexes cs ts) : Lexes (t.text.toList ++ cs) (t :: ts) := by
  have hall : ∀ t ∈ fixedWords, t.text.toList.head?.any isNameStart = true ∧
      t.text.toList.all isWordChar = true ∧ wordLexeme (String.ofList t.text.toList) = t ∧
      endsStatement t = false ∧ ∀ k ∈ phraseKeywords, phraseFront k.1 ≠ upperChars t.text.toList := by
    decide +kernel
  obtain ⟨hstart, hword, hlexeme, hends, hfront⟩ := hall t ht
  have hwithin : endsStatement (wordLexeme (String.ofList t.text.toList)) = false := by
    rw [hlexeme, hends]
  have hbreak : BreaksAfter t.text.toList cs := ⟨hcs, fun k hk heq => absurd heq (hfront k hk)⟩
  have hresult := Lexes.word hstart (List.all_eq_true.mp hword) hwithin hbreak h
  rwa [hlexeme] at hresult

/-- A keyword between blanks. -/
theorem Lexes.keyword (word : String) (hword : keywordToken word ∈ fixedWords) {cs : List Char}
    {ts : List Token} (h : Lexes cs ts) :
    Lexes (' ' :: (word.toList ++ ' ' :: cs)) (keywordToken word :: ts) :=
  .space (.fixed hword rfl (.space h))

/-- The name of a function and its opening parenthesis. -/
theorem Lexes.call (word : String) (hword : wordToken word ∈ fixedWords) {cs : List Char}
    {ts : List Token} (h : Lexes cs ts) :
    Lexes (word.toList ++ '(' :: cs) (wordToken word :: symbolToken "(" :: ts) :=
  .fixed hword rfl (.symbol (by decide) h)

/-- The words that start a clause of two words. -/
theorem Lexes.phrase (phrase : String) (hphrase : phrase ∈ ["GROUP BY", "ORDER BY"]) {cs : List Char}
    {ts : List Token} (h : Lexes cs ts) :
    Lexes (' ' :: (phrase.toList ++ ' ' :: cs)) (keywordToken phrase :: ts) := by
  have hlexes : Lexes (phrase.toList ++ ' ' :: cs) (keywordToken phrase :: ts) := by
    simp only [List.mem_cons, List.not_mem_nil, or_false] at hphrase
    rcases hphrase with rfl | rfl
    · exact .token (by decide) (fun _ => rfl) rfl rfl (.space h)
    · exact .token (by decide) (fun _ => rfl) rfl rfl (.space h)
  exact .space hlexes

/-- What may stand behind a blank after a name, other than its alias. -/
def joints : List String :=
  ["FROM", "WHERE", "GROUP BY", "ORDER BY", "LIMIT", "ASC", "DESC", "LIKE", "ILIKE", "IS", "IN", "BETWEEN",
    "AND", "OR", "=", "<>", ">", "<", ">=", "<="]

theorem breaks_joint (word : String) (hword : word ∈ joints) (cs : List Char) :
    Breaks (' ' :: (word.toList ++ cs)) := by
  have hall : ∀ word ∈ joints, word.toList.head?.any (!isBlank ·) = true ∧
      ∀ k ∈ phraseKeywords, departs (phraseTail k.1) word.toList = true := by decide +kernel
  obtain ⟨hblank, hdeparts⟩ := hall word hword
  exact breaks_space hblank hdeparts cs

theorem Breaks.head_ne {cs : List Char} (h : Breaks cs) {c : Char} (hc : isBreak c = false) :
    cs.head? ≠ some c := by
  intro heq
  have hbreak := h.head
  rw [heq] at hbreak
  simp [hc] at hbreak

/-! Names, in their places. -/

theorem Lexes.name {name : String} (hname : isFreeName name = true) {cs : List Char} {ts : List Token}
    (hbreak : BreaksAfter (nameChars name) cs) (h : Lexes cs ts) :
    Lexes (nameChars name ++ cs) (writtenToken name :: ts) := by
  by_cases hbare : isBareName name.toList = true
  · obtain ⟨hword, hkeyword, -⟩ := isFreeName_of_bare hname hbare
    have hstart : name.toList.head?.any isNameStart = true := by
      revert hbare
      cases name.toList <;> simp +contextual [isBareName]
    have hwithin : endsStatement (wordLexeme name) = false := by
      have hends : ∀ k ∈ [";", "BEGIN"], isFreeKeyword k = false := by decide
      unfold wordLexeme
      cases hk : keywordName? (toUpperText name) with
      | none => rfl
      | some k =>
        have hfree := hkeyword k hk
        rw [← Bool.not_eq_true]
        intro hend
        exact absurd (hends k (by simpa [endsStatement] using hend)) (by simp [hfree])
    have hchars : nameChars name = name.toList := if_pos hbare
    rw [hchars] at hbreak ⊢
    have hresult := Lexes.word hstart hword (by rwa [String.ofList_toList]) hbreak h
    rw [String.ofList_toList] at hresult
    rwa [writtenToken, if_pos hbare]
  · have hhead : cs.head? ≠ some '\x60' := by
      intro heq
      have hfirst := hbreak.head
      rw [heq] at hfirst
      exact absurd hfirst (by decide)
    simpa [nameChars, writtenToken, hbare] using h.quoted hhead

theorem Lexes.column {column : ColumnRef} (hcolumn : column.isFree = true) {cs : List Char}
    {ts : List Token} (hbreak : Breaks cs) (h : Lexes cs ts) :
    Lexes (column.chars ++ cs) (column.token :: ts) := by
  cases column with
  | star => exact .symbol (by decide) h
  | named name => exact .name hcolumn (hbreak.after _) h

/-- Items with commas between them. -/
theorem Lexes.commaSeparated {α : Type} (chars : α → List Char) (tokens : α → List Token) {xs : List α}
    (hitem : ∀ x ∈ xs, ∀ {cs ts}, Breaks cs → Lexes cs ts → Lexes (chars x ++ cs) (tokens x ++ ts))
    {cs : List Char} {ts : List Token} (hbreak : Breaks cs) (h : Lexes cs ts) :
    Lexes (commaSeparated (xs.map chars) ++ cs) (commaTokens (xs.map tokens) ++ ts) := by
  induction xs with
  | nil => exact h
  | cons x xs ih =>
    have hrest := ih fun y hy => hitem y (List.mem_cons_of_mem _ hy)
    cases xs with
    | nil =>
      simpa [QueryGate.commaSeparated, commaTokens, separatedTokens] using
        hitem x List.mem_cons_self hbreak h
    | cons y ys =>
      have hcomma := Lexes.symbol (c := ',') (by decide) (.space hrest)
      have hfirst := hitem x List.mem_cons_self (breaks_symbol (by decide) _) hcomma
      simpa [QueryGate.commaSeparated, commaTokens, separatedTokens] using hfirst

/-! The alias of a column, which must not make a phrase with it. -/

theorem head_nameChars (name : String) : (nameChars name).head?.any (!isBlank ·) = true := by
  unfold nameChars
  split
  · rename_i hbare
    cases hcs : name.toList with
    | nil => simp [hcs, isBareName] at hbare
    | cons c cs =>
      simp only [hcs, isBareName, Bool.and_eq_true] at hbare
      simp [isBlank_of_isWordChar (IsWordStart.of_isNameStart hbare.1).word]
  · rfl

/-- A name that makes up a phrase is written like it. -/
theorem upperChars_of_phrase (p : Char) (front : List Char) {cs : List Char} {name : String} {n : Nat}
    (hfront : ∀ q ∈ p :: front, isWordChar q = true) (hname : isFreeName name = true)
    (hcs : cs.head?.all isBreak = true) (h : phraseLength (p :: front) (nameChars name ++ cs) = some n)
    (hend : ((nameChars name ++ cs).drop n).head?.all isWordEnd = true) :
    upperChars (nameChars name) = p :: front := by
  by_cases hbare : isBareName name.toList = true
  · have hword : ∀ c ∈ nameChars name, isWordChar c = true := by
      simpa only [nameChars, hbare, if_true] using (isFreeName_of_bare hname hbare).1
    rw [← List.append_nil (p :: front)] at h
    exact (phraseLength_word hfront rfl hword hcs h hend).1
  · have hp : isWordChar p = true := hfront p List.mem_cons_self
    have hspace : p ≠ ' ' := by
      rintro rfl
      revert hp
      decide
    have hback : upperChar '\x60' ≠ [p] := by
      intro heq
      obtain rfl : '\x60' = p := by simpa [upperChar] using heq
      revert hp
      decide
    simp [nameChars, hbare, backtickQuoted, phraseLength, hback] at h

theorem breaksAfter_alias {column : ColumnRef} {name : String} (hname : isFreeName name = true)
    (hphrase : isAsOfPhrase column name = false) {cs : List Char}
    (hcs : Breaks cs) : BreaksAfter column.chars (' ' :: ("AS ".toList ++ (nameChars name ++ cs))) := by
  have htails : ∀ k ∈ phraseKeywords, departs (phraseTail k.1) "AS ".toList = true ∨
      phraseTail k.1 = "AS OF".toList ∧
        ["VERSION".toList, "TIMESTAMP".toList].contains (phraseFront k.1) = true := by decide +kernel
  refine ⟨rfl, fun k hk hfront n hn => ?_⟩
  rw [phraseLength_space rfl] at hn
  rcases htails k hk with hdeparts | ⟨htail, hword⟩
  · rw [phraseLength_of_departs hdeparts] at hn
    cases hn
  · refine Bool.eq_false_iff.mpr fun hend => ?_
    have hhead : (nameChars name ++ cs).head?.any (!isBlank ·) = true := by
      have hfirst := head_nameChars name
      cases hc : nameChars name with
      | nil => simp [hc] at hfirst
      | cons c w => simpa [hc] using hfirst
    have hread : phraseLength "AS OF".toList ("AS ".toList ++ (nameChars name ++ cs)) =
        (phraseLength "OF".toList (nameChars name ++ cs)).map (· + 3) := by
      change ((phraseLength (' ' :: "OF".toList) (' ' :: (nameChars name ++ cs))).map (· + 1)).map (· + 1) = _
      rw [phraseLength_space hhead]
      simp [Function.comp_def]
    rw [htail, hread, Option.map_map] at hn
    obtain ⟨m, hm, rfl⟩ := Option.map_eq_some_iff.mp hn
    have hof : upperChars (nameChars name) = "OF".toList :=
      upperChars_of_phrase 'O' ['F'] (forall_mem_of_all (by decide +kernel)) hname hcs.head hm hend
    rw [isAsOfPhrase, ← hfront, hword, hof] at hphrase
    exact absurd hphrase (by decide)

theorem Aggregation.label_mem (a : Aggregation) : wordToken a.label ∈ fixedWords := by
  cases a <;> decide

theorem Projection.lexes {p : Projection} (hp : p.isFree = true) {cs : List Char} {ts : List Token}
    (hbreak : Breaks cs) (h : Lexes cs ts) : Lexes (p.chars ++ cs) (p.tokens ++ ts) := by
  obtain ⟨column, aggregation, outputName⟩ := p
  simp only [Projection.isFree, Bool.and_eq_true] at hp
  obtain ⟨hcolumn, hname⟩ := hp
  have hvalue : ∀ {cs ts} (a : Aggregation), Lexes cs ts →
      Lexes (a.label.toList ++ '(' :: (column.chars ++ ')' :: cs))
        (wordToken a.label :: symbolToken "(" :: column.token :: symbolToken ")" :: ts) := by
    intro cs ts a h
    have hclose := Lexes.symbol (c := ')') (by decide) h
    exact .call _ a.label_mem (.column hcolumn (breaks_symbol (by decide) _) hclose)
  cases outputName with
  | none =>
    cases aggregation with
    | none => exact .column hcolumn hbreak h
    | some a => simpa [Projection.chars, Projection.tokens, Projection.valueTokens] using hvalue a h
  | some name =>
    simp only [Option.all_some, Bool.and_eq_true, Bool.or_eq_true, Bool.not_eq_true'] at hname
    obtain ⟨hplain, hphrase⟩ := hname
    have halias := Lexes.keyword "AS" (by decide) (.name hplain (hbreak.after _) h)
    cases aggregation with
    | none =>
      have hafter := breaksAfter_alias hplain (by simpa using hphrase) hbreak
      have hread : Lexes (column.chars ++ ' ' :: ("AS".toList ++ ' ' :: (nameChars name ++ cs)))
          (column.token :: keywordToken "AS" :: writtenToken name :: ts) := by
        cases column with
        | star => exact .symbol (by decide) halias
        | named name => exact .name hcolumn (by simpa [ColumnRef.chars] using hafter) halias
      simpa [Projection.chars, Projection.tokens, Projection.valueTokens] using hread
    | some a =>
      simpa [Projection.chars, Projection.tokens, Projection.valueTokens] using hvalue a halias

/-! Predicates and conditions. -/

theorem Lexes.value (value : String) {cs : List Char} {ts : List Token} (hbreak : Breaks cs) (h : Lexes cs ts) :
    Lexes (stringLiteral value ++ cs) (textToken (rereadValue value) :: ts) :=
  .text value (hbreak.head_ne (by decide)) h

/-- A column and a keyword behind it. -/
theorem Lexes.tested {column : ColumnRef} (hcolumn : column.isFree = true) (word : String)
    (hjoint : word ∈ joints) (hword : keywordToken word ∈ fixedWords) {cs : List Char} {ts : List Token}
    (h : Lexes cs ts) :
    Lexes (column.chars ++ ' ' :: (word.toList ++ ' ' :: cs)) (column.token :: keywordToken word :: ts) :=
  .column hcolumn (breaks_joint _ hjoint _) (.keyword _ hword h)

theorem Predicate.lexes {p : Predicate} (hp : p.column.isFree = true) {cs : List Char} {ts : List Token}
    (hbreak : Breaks cs) (h : Lexes cs ts) : Lexes (p.chars ++ cs) (p.reread.tokens ++ ts) := by
  induction p with
  | compare column how value =>
    have hcolumn : column.isFree = true := hp
    have hjoint : how.label ∈ joints := by cases how <;> decide
    have hvalue := Lexes.value value hbreak h
    have hread := Lexes.column hcolumn (breaks_joint _ hjoint _) (.space (.comparison how (.space hvalue)))
    change Lexes (column.chars ++ ' ' :: (how.label.toList ++ ' ' :: stringLiteral value) ++ cs) _
    simpa [reread, tokens] using hread
  | fits column how value =>
    have hcolumn : column.isFree = true := hp
    have hvalue := Lexes.value value hbreak h
    cases how with
    | like =>
      have hread := Lexes.tested hcolumn "LIKE" (by decide) (by decide) hvalue
      change Lexes (column.chars ++ " LIKE ".toList ++ stringLiteral value ++ cs) _
      simpa [reread, tokens] using hread
    | ilike =>
      have hread := Lexes.tested hcolumn "ILIKE" (by decide) (by decide) hvalue
      change Lexes (column.chars ++ " ILIKE ".toList ++ stringLiteral value ++ cs) _
      simpa [reread, tokens] using hread
    | regexp =>
      have hclose := Lexes.value value (breaks_symbol (by decide) _)
        (Lexes.symbol (c := ')') (by decide) h)
      have hcomma := Lexes.column hcolumn (breaks_symbol (by decide) _)
        (Lexes.symbol (c := ',') (by decide) (.space hclose))
      have hread := Lexes.call "REGEXP_LIKE" (by decide) hcomma
      change Lexes ("REGEXP_LIKE(".toList ++ column.chars ++ [',', ' '] ++ stringLiteral value ++ [')']
        ++ cs) _
      simpa [reread, tokens] using hread
  | isNull column =>
    have hcolumn : column.isFree = true := hp
    have hnull := Lexes.fixed (t := keywordToken "NULL") (by decide) hbreak.head h
    have hread := Lexes.tested hcolumn "IS" (by decide) (by decide) hnull
    change Lexes (column.chars ++ " IS NULL".toList ++ cs) _
    simpa [reread, tokens, keywordToken] using hread
  | oneOf column values =>
    have hcolumn : column.isFree = true := hp
    have hclose := Lexes.symbol (c := ')') (by decide) h
    have hitems := Lexes.commaSeparated stringLiteral (fun value => [textToken (rereadValue value)])
      (fun value (_ : value ∈ values) _ _ hb hl => Lexes.value value hb hl) (breaks_symbol (by decide) _) hclose
    have hread := Lexes.tested hcolumn "IN" (by decide) (by decide)
      (Lexes.symbol (c := '(') (by decide) hitems)
    change Lexes (column.chars ++ " IN (".toList ++ commaSeparated (values.map stringLiteral) ++ [')']
      ++ cs) _
    simpa [reread, tokens, Function.comp_def] using hread
  | between column low high =>
    have hcolumn : column.isFree = true := hp
    have hand := Lexes.keyword "AND" (by decide) (Lexes.value high hbreak h)
    have hread := Lexes.tested hcolumn "BETWEEN" (by decide) (by decide)
      (Lexes.value low (breaks_joint "AND" (by decide) _) hand)
    change Lexes (column.chars ++ " BETWEEN ".toList ++ stringLiteral low ++ " AND ".toList
      ++ stringLiteral high ++ cs) _
    simpa [reread, tokens] using hread
  | negated p ih =>
    have hnot := Lexes.fixed (t := keywordToken "NOT") (by decide) rfl (.space (ih hp))
    change Lexes ("NOT ".toList ++ p.chars ++ cs) _
    simpa [reread, tokens, keywordToken] using hnot

theorem Condition.lexes {c : Condition} (hc : ∀ p ∈ c.predicates, p.column.isFree = true) {cs : List Char}
    {ts : List Token} (hbreak : Breaks cs) (h : Lexes cs ts) : Lexes (c.chars ++ cs) (c.reread.tokens ++ ts) := by
  induction c generalizing cs ts with
  | test p => exact p.lexes (hc p List.mem_cons_self) hbreak h
  | both c p ih =>
    obtain ⟨hfront, hlast⟩ := List.forall_mem_append.mp hc
    have hand := Lexes.keyword "AND" (by decide) (p.lexes (hlast p List.mem_cons_self) hbreak h)
    have hread := ih hfront (breaks_joint "AND" (by decide) _) hand
    change Lexes (c.chars ++ " AND ".toList ++ p.chars ++ cs) _
    simpa [reread, tokens] using hread
  | either c p ih =>
    obtain ⟨hfront, hlast⟩ := List.forall_mem_append.mp hc
    have hor := Lexes.keyword "OR" (by decide) (p.lexes (hlast p List.mem_cons_self) hbreak h)
    have hread := ih hfront (breaks_joint "OR" (by decide) _) hor
    change Lexes (c.chars ++ " OR ".toList ++ p.chars ++ cs) _
    simpa [reread, tokens] using hread

/-! Clauses and whole queries. -/

/-- What stands at the end of a query: its tokens, whatever name or value stands in front. -/
structure LexesBehind (cs : List Char) (ts : List Token) : Prop where
  breaks : Breaks cs
  lexes : Lexes cs ts

/-- A clause that starts with a keyword. -/
theorem LexesBehind.clause (word : String) (hjoint : word ∈ joints) {cs : List Char} {ts : List Token}
    (h : Lexes (' ' :: (word.toList ++ ' ' :: cs)) ts) :
    LexesBehind (' ' :: (word.toList ++ ' ' :: cs)) ts :=
  ⟨breaks_joint _ hjoint _, h⟩

theorem lexes_order {column : ColumnRef} (hcolumn : column.isFree = true) (descending : Bool)
    {cs : List Char} {ts : List Token} (h : LexesBehind cs ts) :
    LexesBehind (orderChars column descending ++ cs) (orderTokens column descending ++ ts) := by
  have hdirection : Lexes (column.chars ++ ((if descending then " DESC" else " ASC NULLS LAST").toList ++ cs))
      (column.token :: ((if descending then [keywordToken "DESC"]
        else [keywordToken "ASC", wordToken "NULLS", wordToken "LAST"]) ++ ts)) := by
    cases descending with
    | true =>
      have hword := Lexes.fixed (t := keywordToken "DESC") (by decide) h.breaks.head h.lexes
      have hread := Lexes.column hcolumn (breaks_joint "DESC" (by decide) cs) (.space hword)
      simpa [keywordToken] using hread
    | false =>
      have hlast := Lexes.fixed (t := wordToken "LAST") (by decide) h.breaks.head h.lexes
      have hnulls := Lexes.fixed (t := wordToken "NULLS") (by decide) rfl (.space hlast)
      have hread := Lexes.tested hcolumn "ASC" (by decide) (by decide) hnulls
      simpa [wordToken] using hread
  have hread := LexesBehind.clause "ORDER BY" (by decide)
    (Lexes.phrase "ORDER BY" (by decide) hdirection)
  change LexesBehind (" ORDER BY ".toList ++ column.chars
    ++ (if descending then " DESC" else " ASC NULLS LAST").toList ++ cs) _
  simpa [orderTokens] using hread

theorem lexes_group {group : List ColumnRef} (hgroup : ∀ column ∈ group, column.isFree = true)
    {cs : List Char} {ts : List Token} (h : LexesBehind cs ts) :
    LexesBehind ((if group.isEmpty then [] else
        " GROUP BY ".toList ++ commaSeparated (group.map (·.chars))) ++ cs)
      ((if group.isEmpty then [] else
        keywordToken "GROUP BY" :: commaTokens (group.map fun column => [column.token])) ++ ts) := by
  by_cases hempty : group.isEmpty = true
  · simpa [hempty] using h
  · have hitems := Lexes.commaSeparated ColumnRef.chars (fun column => [column.token])
      (fun column hc _ _ hb hl => Lexes.column (hgroup column hc) hb hl) h.breaks h.lexes
    have hread := LexesBehind.clause "GROUP BY" (by decide)
      (Lexes.phrase "GROUP BY" (by decide) hitems)
    simpa [hempty] using hread

theorem lexes_condition {condition : Option Condition} {cs : List Char} {ts : List Token}
    (h : LexesBehind cs ts) : (∀ c ∈ condition, c.isNamed = true) →
    LexesBehind ((match condition with
        | some c => " WHERE ".toList ++ c.chars
        | none => []) ++ cs)
      ((match condition.map (·.reread) with
        | some c => keywordToken "WHERE" :: c.tokens
        | none => []) ++ ts) := by
  intro hc
  cases condition with
  | none => exact h
  | some c =>
    have hcolumns : ∀ p ∈ c.predicates, p.column.isFree = true := fun p hp => by
      exact (Predicate.isNamed_iff.mp (List.all_eq_true.mp (hc c rfl) p hp)).1
    have hread := LexesBehind.clause "WHERE" (by decide)
      (Lexes.keyword "WHERE" (by decide) (Condition.lexes hcolumns h.breaks h.lexes))
    simpa using hread

theorem lexes_limit (limit : Option Nat) :
    LexesBehind (match limit with
        | some n => " LIMIT ".toList ++ Nat.toDigits 10 n
        | none => [])
      (match limit with
        | some n => [keywordToken "LIMIT", numberToken (String.ofList (Nat.toDigits 10 n))]
        | none => []) := by
  cases limit with
  | none => exact ⟨breaks_nil, .nil⟩
  | some n =>
    have hread := LexesBehind.clause "LIMIT" (by decide)
      (Lexes.keyword "LIMIT" (by decide) (.number n))
    simpa using hread

theorem lexes_ordered {order : Option (ColumnRef × Bool)} {cs : List Char} {ts : List Token}
    (h : LexesBehind cs ts) : (∀ o ∈ order, o.1.isFree = true) →
    LexesBehind ((match order with
        | some (column, descending) => orderChars column descending
        | none => []) ++ cs)
      ((match order with
        | some (column, descending) => orderTokens column descending
        | none => []) ++ ts) := by
  intro ho
  cases order with
  | none => exact h
  | some o => exact lexes_order (ho o rfl) o.2 h

/-- The text of a query is split into the tokens of its parts. -/
theorem Select.lexes {s : Select} (hs : s.IsNamed) : Lexes s.chars s.reread.tokens := by
  have htail := lexes_condition
    (lexes_group hs.group (lexes_ordered (lexes_limit s.limit) hs.order)) hs.condition
  have htable := Lexes.symbol (c := '.') (by decide)
    (Lexes.name hs.table (htail.breaks.after _) htail.lexes)
  have hsource := Lexes.keyword "FROM" (by decide)
    (Lexes.name hs.database (Breaks.after (breaks_symbol (by decide) _) _) htable)
  have hprojections := Lexes.commaSeparated Projection.chars Projection.tokens
    (fun p hp _ _ hb hl => Projection.lexes (hs.projection p hp) hb hl)
    (breaks_joint "FROM" (by decide) _) hsource
  have hselect := Lexes.fixed (t := keywordToken "SELECT") (by decide) rfl (.space hprojections)
  have hword : "SELECT ".toList = "SELECT".toList ++ [' '] := rfl
  have hfrom : " FROM ".toList = ' ' :: ("FROM".toList ++ [' ']) := rfl
  unfold Select.chars Select.tokens Select.clauseTokens Select.reread
  simp only [hword, hfrom, List.append_assoc, List.cons_append, List.nil_append] at hselect ⊢
  exact hselect

/-! No blank stands at either end of the text, so that nothing is trimmed off it. -/

theorem endsTight_name {name : String} (hname : isFreeName name = true) :
    EndsTight (nameChars name) := by
  by_cases hbare : isBareName name.toList = true
  · simp only [nameChars, hbare, if_true]
    cases hlast : name.toList.getLast? with
    | none => simp [List.getLast?_eq_none_iff.mp hlast, isBareName] at hbare
    | some c =>
      have hc := isBlank_of_isWordChar
        ((isFreeName_of_bare hname hbare).1 c (List.mem_of_getLast? hlast))
      simp [EndsTight, hlast, hc]
  · simp only [nameChars, hbare]
    exact endsTight_symbol (by decide) ('\x60' :: doubleBackticks name.toList)

theorem endsTight_column {column : ColumnRef} (hcolumn : column.isFree = true) :
    EndsTight column.chars := by
  cases column with
  | star => rfl
  | named name => exact endsTight_name hcolumn

theorem endsTight_literal (value : String) : EndsTight (stringLiteral value) :=
  endsTight_symbol (by decide) ('\'' :: value.toList.flatMap literalCharOf)

theorem endsTight_commaSeparated {parts : List (List Char)} (hne : parts ≠ [])
    (h : ∀ part ∈ parts, EndsTight part) : EndsTight (commaSeparated parts) := by
  induction parts with
  | nil => exact absurd rfl hne
  | cons part rest ih =>
    cases rest with
    | nil => simpa [commaSeparated] using h part List.mem_cons_self
    | cons next rest =>
      have hrest := ih (by simp) fun x hx => h x (List.mem_cons_of_mem _ hx)
      simpa [commaSeparated] using (hrest.append [',', ' ']).append part

theorem Predicate.endsTight (p : Predicate) : EndsTight p.chars := by
  induction p with
  | compare column how value =>
    exact (((endsTight_literal value).cons ' ').append how.label.toList |>.cons ' ').append column.chars
  | fits column how value =>
    cases how with
    | like | ilike => exact (endsTight_literal value).append _
    | regexp => exact endsTight_symbol (by decide) _
  | isNull column => exact EndsTight.append (b := " IS NULL".toList) rfl column.chars
  | oneOf column values => exact endsTight_symbol (by decide) _
  | between column low high => exact (endsTight_literal high).append _
  | negated p ih => exact ih.append _

theorem Condition.endsTight (c : Condition) : EndsTight c.chars := by
  cases c with
  | test p => exact p.endsTight
  | both c p => exact p.endsTight.append _
  | either c p => exact p.endsTight.append _

theorem Select.endsTight {s : Select} (hs : s.IsNamed) : EndsTight s.chars := by
  have htable := (endsTight_name hs.table).cons '.'
  unfold Select.chars
  refine ((((htable.append _).behind ?_).behind ?_).behind ?_).behind ?_
  · cases s.condition with
    | none => exact .inl rfl
    | some c => exact .inr (c.endsTight.append _)
  · by_cases hempty : s.group.isEmpty = true
    · exact .inl (if_pos hempty)
    · refine .inr ?_
      rw [if_neg hempty]
      refine EndsTight.append (endsTight_commaSeparated (by simpa using hempty) fun part hpart => ?_) _
      obtain ⟨column, hcolumn, rfl⟩ := List.mem_map.mp hpart
      exact endsTight_column (hs.group column hcolumn)
  · cases s.order with
    | none => exact .inl rfl
    | some o =>
      refine .inr (EndsTight.append ?_ _)
      cases o.2 <;> rfl
  · cases s.limit with
    | none => exact .inl rfl
    | some n =>
      refine .inr (EndsTight.append ?_ _)
      cases hlast : (Nat.toDigits 10 n).getLast? with
      | none => exact absurd (List.getLast?_eq_none_iff.mp hlast) Nat.toDigits_ne_nil
      | some c =>
        have hdigit := Nat.isDigit_of_mem_toDigits (by decide) (by decide) (List.mem_of_getLast? hlast)
        simp [EndsTight, hlast, (isDigitChar_of_isDigit hdigit).2]

/-- The text of a query is read as the tokens of its parts. -/
theorem Select.tokenize_text {s : Select} (hs : s.IsNamed) : tokenize s.text = .ok s.reread.tokens := by
  have hstart : ∃ cs, s.chars = 'S' :: cs := ⟨_, rfl⟩
  obtain ⟨cs, hcs⟩ := hstart
  have htrim : trimBlanks s.chars = s.chars := by
    rw [hcs]
    exact trimBlanks_eq_self rfl (hcs ▸ s.endsTight hs)
  rw [Select.text, htrim]
  exact (s.lexes hs).tokenize fun t ht => by
    obtain rfl := Option.some.inj ht
    rfl

end QueryGate
