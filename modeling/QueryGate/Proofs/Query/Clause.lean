import QueryGate.Proofs.Query.Condition
/-! The parts of a query, each read where its tokens stand: projections, the table, and the clauses
behind it. -/

namespace QueryGate

open Grammar Reading

section

variable {text : Array Token} {i j d : Nat}

/-! Projections. -/

theorem run_offsetAhead_none {answer : {α : Type} → Construct α → Nat → Outcome α}
    (h : text[i]?.any (isKeyword "OFFSET") = false) :
    offsetAhead.run text answer i = .ok (false, i) :=
  (run_bind_ok (run_sees_none _ h) _).trans rfl

/-- What stands in the value of a projection is an operand. -/
theorem run_projection_value {p : Projection} (hp : p.isFree = true) (h : Stands text i p.valueTokens)
    (hend : Stops text (i + p.valueTokens.length) operandEnds) :
    readUnary.run text (Construct.read text (d + 3)) i =
      .ok (some p.valueTree, i + p.valueTokens.length) := by
  obtain ⟨column, aggregation, outputName⟩ := p
  simp only [Projection.isFree, Bool.and_eq_true] at hp
  have hcolumn := isArgument_column hp.1
  cases aggregation with
  | none => exact hcolumn.read h.1 hend
  | some a =>
    obtain ⟨hname, hopen, hfirst, hclose, -⟩ := h
    obtain ⟨signature, hfunction, hkey, hallows⟩ := isFunction_aggregation a
    have hread := run_unary_simple (d := d) [(column.token, column.tree)] hname
      hfunction hopen (by simp) (fun x hx => List.mem_singleton.mp hx ▸ hcolumn) hallows
      ⟨hfirst, hclose, trivial⟩ rfl hend
    rw [hkey] at hread
    exact hread

theorem run_nameWhere_none {answer : {α : Type} → Construct α → Nat → Outcome α} {fs : List Token}
    {any : Bool} {p : Token → Bool} (h : Stops text i fs) (hsub : ∀ t ∈ fs, t ∈ operandEnds)
    (hp : ∀ t ∈ fs, (any && !isReservedToken t || p t) = false) :
    (nameWhere any p).run text answer i = .ok (none, i) := by
  have hend := h.mono hsub
  have hquoted : quotedName.run text answer i = .ok (none, i) := by
    refine (run_bind_ok (run_matchToken_none _ (hend.any (by decide))) _).trans ?_
    refine (run_bind_ok (run_accepts_none _ (hend.any (by decide))) _).trans ?_
    have hcolon : ∀ t ∈ operandEnds, ∀ next : Option Token,
        (isSymbol ":" t && next.any isPlaceholderName) = false := fun t ht next => by
      have hno : ∀ t ∈ operandEnds, isSymbol ":" t = false := by decide
      simp [hno t ht]
    refine (run_bind_ok (run_take_none _ (hend.any fun t ht => hcolon t ht _)) _).trans ?_
    exact (run_bind_ok (run_accepts_none _ (hend.any (by decide))) _).trans rfl
  refine (run_bind_ok hquoted _).trans ?_
  exact (run_bind_ok (run_matchToken_none _ (h.any hp)) _).trans rfl

theorem Projection.run {p : Projection} (hp : p.isFree = true) (h : Stands text i p.tokens)
    (hstop : Stops text (i + p.tokens.length) [symbolToken ",", keywordToken "FROM"]) :
    readExpression.run text (Construct.read text (d + 3)) i =
      .ok (some p.tree, i + p.tokens.length) := by
  have hread : ∀ {j}, j = i + p.valueTokens.length → Stands text i p.valueTokens →
      Stops text j [symbolToken ",", keywordToken "FROM", keywordToken "AS"] →
      readAssignment.run text (Construct.read text (d + 3)) i = .ok (some p.valueTree, j) := by
    rintro j rfl hvalue hnext
    have hplain := run_plain (run_projection_value (d := d) hp hvalue (hnext.mono (by decide)))
      (hnext.mono (by decide))
    refine (run_bind_ok hplain _).trans ?_
    exact (run_bind_ok (run_accepts_none _ (hnext.any (by decide))) _).trans rfl
  obtain ⟨column, aggregation, outputName⟩ := p
  obtain ⟨hvalue, halias⟩ := stands_append.mp h
  unfold Projection.tokens at hstop ⊢
  rw [List.length_append, ← Nat.add_assoc] at hstop ⊢
  simp only [Projection.isFree, Bool.and_eq_true] at hp
  cases outputName with
  | none =>
    refine (run_bind_ok (hread rfl hvalue (hstop.mono (by decide))) _).trans ?_
    refine (run_bind_ok (run_offsetAhead_none (hstop.any (by decide))) _).trans ?_
    refine (run_bind_ok (run_accepts_none _ (hstop.any (by decide))) _).trans ?_
    refine (run_bind_ok (run_accepts_none _ (hstop.any (by decide))) _).trans ?_
    exact (run_bind_ok (run_nameWhere_none hstop (by decide) (by decide)) _).trans rfl
  | some name =>
    obtain ⟨hAs, hname, -⟩ := halias
    simp only [Option.all_some, Bool.and_eq_true] at hp
    have hplain := isName_writtenToken hp.2.1
    have hopen : isSymbol "(" (writtenToken name) = false := hplain.isSymbol_eq_false _
    have hlimit : isKeyword "LIMIT" (writtenToken name) = false := isKeyword_of_free hplain.free (by decide)
    have hnext : Stops text (i + (Projection.mk column aggregation (some name)).valueTokens.length)
        [symbolToken ",", keywordToken "FROM", keywordToken "AS"] := stops_of_get hAs (by decide)
    refine (run_bind_ok (hread rfl hvalue hnext) _).trans ?_
    refine (run_bind_ok (run_offsetAhead_none (hnext.any (by decide))) _).trans ?_
    refine (run_bind_ok (run_accepts _ hAs rfl) _).trans ?_
    refine (run_bind_ok (run_accepts_none _ (by simp [hname, hopen])) _).trans ?_
    refine (run_bind_ok (run_nameWhere hname hplain fun hnamed => by simp [hnamed, hlimit]) _).trans ?_
    rw [identifierOf_writtenToken]
    rfl

/-! The table. -/

theorem run_tablePart {t : Token} (ht : text[i]? = some t) (hname : IsName t)
    (hopen : text[i + 1]?.any (isSymbol "(") = false)
    {answer : {α : Type} → Construct α → Nat → Outcome α} :
    (tablePart false).run text answer i = .ok (some (identifierOf t), i + 1) := by
  have hcall : (callWith false false true call).run text answer i = .ok (none, i) := by
    refine (run_bind_ok (run_here i) _).trans ?_
    refine (run_bind_ok (run_matchToken_none _ (by simp [ht])) _).trans ?_
    have hparen : (parenthesised call false true).run text answer i = .ok (none, i) :=
      (run_bind_ok (run_take_none _ (by simp [ht, hopen])) _).trans rfl
    refine (run_bind_ok hparen _).trans ?_
    exact (run_bind_ok (run_matchToken_none _ (by simp [ht])) _).trans rfl
  refine (run_bind_ok hcall _).trans ?_
  exact (run_bind_ok (run_name ht hname) _).trans rfl

/-- What may stand behind the table of a query. -/
def tableEnds : List Token :=
  ["WHERE", "GROUP BY", "ORDER BY", "LIMIT"].map keywordToken

theorem run_pivots_none {answer : {α : Type} → Construct α → Nat → Outcome α}
    (h : Stops text i operandEnds) : (many pivot).run text answer i = .ok ([], i) := by
  have hpivot : pivot.run text answer i = .ok (none, i) := by
    refine (run_bind_ok (run_here i) _).trans ?_
    refine (run_bind_ok (run_accepts_none _ (h.any (by decide))) _).trans ?_
    have hword : (either (return false) (keyword "PIVOT")).run text answer i = .ok (false, i) :=
      (run_bind_ok (run_pure _ _) _).trans (run_accepts_none _ (h.any (by decide)))
    exact (run_bind_ok hword _).trans rfl
  exact run_loop_stop ((run_bind_ok hpivot _).trans rfl)

theorem run_sourceAlias_none {answer : {α : Type} → Construct α → Nat → Outcome α}
    (h : Stops text i tableEnds) : sourceAlias.run text answer i = .ok (none, i) := by
  have hgiven : (givenName false isTableAliasToken).run text answer i = .ok (none, i) :=
    run_nameWhere_none h (by decide) (by decide)
  have htext : textName.run text answer i = .ok (none, i) :=
    run_bind_ok (run_matchToken_none _ (h.any (by decide))) _
  have hfirst : (firstOf [givenName false isTableAliasToken, textName]).run text answer i = .ok (none, i) :=
    (run_bind_ok hgiven _).trans ((run_bind_ok htext _).trans rfl)
  refine (run_bind_ok (run_offsetAhead_none (h.any (by decide))) _).trans ?_
  refine (run_bind_ok (run_accepts_none _ (h.any (by decide))) _).trans ?_
  refine (run_bind_ok hfirst _).trans ((run_bind_ok (run_here i) _).trans ?_)
  refine (run_bind_ok (run_accepts_none _ (h.any (by decide))) _).trans ?_
  exact (run_bind_ok (run_pure _ _) _).trans rfl

/-- The names of a table, with points between them. -/
def tableTokens (path : List String) : List Token :=
  separatedTokens (symbolToken ".") (path.map fun name => [writtenToken name])

theorem run_tableParts {path : List String} (hne : path ≠ []) (hfree : ∀ name ∈ path, isFreeName name = true)
    (h : Stands text i (tableTokens path)) (hstop : Stops text (i + (tableTokens path).length) tableEnds)
    {answer : {α : Type} → Construct α → Nat → Outcome α} :
    (tableParts false).run text answer i =
      .ok (.node .table "" (path.map nameTree), i + (tableTokens path).length) := by
  obtain ⟨first, others, rfl⟩ := List.exists_cons_of_ne_nil hne
  have hpart : ∀ name ∈ first :: others, ∀ {k}, text[k]? = some (writtenToken name) →
      Stops text (k + 1) (symbolToken "." :: tableEnds) →
      (tablePart false).run text answer k = .ok (some (nameTree name), k + 1) := by
    intro name hname k hk hnext
    rw [← identifierOf_writtenToken]
    exact run_tablePart hk (isName_writtenToken (hfree name hname)) (hnext.any (by decide))
  have hafter := stops_first h hstop
  unfold tableTokens at h hstop ⊢
  rw [separatedTokens_map] at h hstop ⊢
  obtain ⟨hfirst, hothers⟩ := stands_append.mp h
  rw [List.length_append, ← Nat.add_assoc] at hstop ⊢
  refine (run_bind_ok (hpart first List.mem_cons_self hfirst.1 hafter) _).trans ?_
  refine (run_bind_ok (run_loop (steps_separated (fun parts => (parts, false))
    (fun parts name => parts ++ [nameTree name]) (fun name hname parts k hk hnext => ?_) (fun parts k hk => ?_)
    [nameTree first] hothers hstop) ?_) _).trans ?_
  · obtain ⟨hpoint, hk, -⟩ := hk
    refine (run_bind_ok (run_accepts _ hpoint rfl) _).trans ?_
    exact (run_bind_ok (hpart name (List.mem_cons_of_mem _ hname) hk hnext) _).trans rfl
  · exact (run_bind_ok (run_accepts_none _ (hk.any (by decide))) _).trans rfl
  · have hle := hothers.length_le
    omega
  · rw [foldl_snoc]
    rfl

/-- Names for a table, at least two. -/
structure IsPath (path : List String) : Prop where
  several : ∃ first second others, path = first :: second :: others
  free : ∀ name ∈ path, isFreeName name = true
  /-- The word `ONLY` may stand in front of a table. -/
  only : ∀ name ∈ path.head?, toUpperText name ≠ "ONLY"

theorem Select.IsNamed.path {s : Select} (hs : s.IsNamed) : IsPath [s.database, s.table] :=
  ⟨⟨s.database, s.table, [], rfl⟩, by simp [hs.database, hs.table], by simp [hs.only]⟩

/-- A table by its names. -/
theorem run_table {path : List String} (hpath : IsPath path) (h : Stands text i (tableTokens path))
    (hstop : Stops text (i + (tableTokens path).length) tableEnds) :
    (readTable false).run text (Construct.read text (d + 3)) i =
      .ok (some (.node .table "" (path.map nameTree)), i + (tableTokens path).length) := by
  obtain ⟨database, second, others, hsplit⟩ := hpath.several
  have hparts : (tableParts false).run text (Construct.read text (d + 3)) i =
      .ok (.node .table "" (path.map nameTree), i + (tableTokens path).length) :=
    run_tableParts (by simp [hsplit]) hpath.free h hstop
  have hname := isName_writtenToken (hpath.free database (by simp [hsplit]))
  have honly := hpath.only database (by simp [hsplit])
  rw [hsplit] at h
  obtain ⟨hfirst, hpoint, -⟩ := h
  have hend : Stops text (i + (tableTokens path).length) operandEnds := hstop.mono (by decide)
  have hkeyword : isKeyword "LATERAL" (writtenToken database) = false := isKeyword_of_free hname.free (by decide)
  have hopen : isNamed "(" (symbolToken ".") = false := by decide
  have hlateral : lateral.run text (Construct.read text (d + 3)) i = .ok (none, i) :=
    (run_bind_ok (run_accepts_none _ (by simp [hfirst, hkeyword])) _).trans rfl
  have hunnest : unnest.run text (Construct.read text (d + 3)) i = .ok (none, i) :=
    (run_bind_ok (run_pair_none (by simp [hpoint, hopen])) _).trans rfl
  have hquery : (query ⟨false, true, true, true⟩).run text (Construct.read text (d + 3)) i =
      .ok (none, i) :=
    read_query_none hfirst hname.isNoQuery
      (fun answer => run_call_end (stops_of_get hpoint (by decide)) answer) _
  have hother : (firstOf [lateral, unnest, Grammar.values, query ⟨false, true, true, true⟩]).run text
      (Construct.read text (d + 3)) i = .ok (none, i) := by
    refine (run_bind_ok hlateral _).trans ((run_bind_ok hunnest _).trans ?_)
    refine (run_bind_ok (run_values_none hfirst hname.isNoQuery) _).trans ?_
    exact (run_bind_ok hquery _).trans rfl
  have hword : isWritten "ONLY" (writtenToken database) = false := by
    simp [isWritten, writtenToken_text, honly]
  refine (run_bind_ok hother _).trans ?_
  refine (run_bind_ok (run_phrase_none _ _ (by simp [hfirst, hword])) _).trans ?_
  refine (run_bind_ok hparts _).trans ((run_bind_ok (run_pivots_none hend) _).trans ?_)
  refine (run_bind_ok (run_brackets_end _ hend) _).trans ?_
  refine (run_bind_ok (run_accepts_none _ (hend.any (by decide))) _).trans ?_
  have hversion : version.run text (Construct.read text (d + 3)) (i + (tableTokens path).length) =
      .ok (none, i + (tableTokens path).length) :=
    (run_bind_ok (run_accepts_none _ (hend.any (by decide))) _).trans rfl
  have hsample : sample.run text (Construct.read text (d + 3)) (i + (tableTokens path).length) =
      .ok (none, i + (tableTokens path).length) :=
    (run_bind_ok (run_accepts_none _ (hend.any (by decide))) _).trans rfl
  refine (run_bind_ok hversion _).trans ((run_bind_ok hsample _).trans ?_)
  refine (run_bind_ok (run_sourceAlias_none hstop) _).trans ?_
  exact (run_bind_ok (run_pivots_none hend) _).trans rfl

/-! Clauses. -/

/-- A clause with the keyword that it starts with. -/
theorem read_clause {word : String} {c : Tree} (ht : text[i]? = some (keywordToken word))
    (hword : isOneOf clauseStarts (keywordToken word) = true)
    (hread : clausesHere.run text (Construct.read text d) i = .ok ([c], j)) :
    Construct.read text (d + 1) .clause i = .ok ((word, [c]), j) := by
  have hahead : (ahead (matchToken? (isOneOf clauseStarts))).run text (Construct.read text d) i =
      .ok (some (keywordToken word), i) := by
    refine (run_bind_ok (run_here i) _).trans ((run_bind_ok (run_matchToken _ ht hword) _).trans ?_)
    exact (run_bind_ok (run_back i (i + 1)) _).trans (by rw [Nat.min_eq_left (Nat.le_succ i)]; rfl)
  exact (run_bind_ok hahead _).trans ((run_bind_ok hread _).trans rfl)

/-- What may stand behind the condition of a query. -/
def filterEnds : List Token :=
  ["GROUP BY", "ORDER BY", "LIMIT"].map keywordToken

theorem run_filter {c : Condition} (hc : c.isNamed = true) {bound : Nat} (hbound : c.tokens.length ≤ bound)
    (h : Stands text i (keywordToken "WHERE" :: c.tokens))
    (hstop : Stops text (i + 1 + c.tokens.length) filterEnds) :
    clausesHere.run text (Construct.read text (d + bound + 3)) i =
      .ok ([.node (.clause .filter) "" [c.tree]], i + 1 + c.tokens.length) := by
  obtain ⟨hword, hcondition⟩ := h
  have hread := run_condition (d := d) hc hbound hcondition (hstop.mono (by decide))
  refine (run_bind_ok (run_accepts _ hword rfl) _).trans ?_
  exact (run_bind_ok ((run_bind_ok hread _).trans rfl) _).trans rfl

/-- A column on its own, in a list of columns. -/
theorem run_assignment_column {column : ColumnRef} (hcolumn : column.isFree = true)
    (ht : text[i]? = some column.token) (hstop : Stops text (i + 1) conditionEnds) :
    readAssignment.run text (Construct.read text (d + 1)) i = .ok (some column.tree, i + 1) := by
  have hread := run_plain ((isArgument_column hcolumn).read (d := d) ht (hstop.mono (by decide))) hstop
  exact (run_bind_ok hread _).trans ((run_bind_ok (run_accepts_none _ (hstop.any (by decide))) _).trans rfl)

theorem ColumnRef.token_free {column : ColumnRef} (hcolumn : column.isFree = true) :
    isFreeToken column.token = true := by
  have hno := (isArgument_column hcolumn).noQuery
  simp only [isNoQuery, Bool.and_eq_true] at hno
  exact hno.1.1

/-- What may stand behind the columns of a group. -/
def groupEnds : List Token :=
  ["ORDER BY", "LIMIT"].map keywordToken

theorem run_groupRound {group : List ColumnRef} (hne : group ≠ [])
    (hgroup : ∀ column ∈ group, column.isFree = true)
    (h : Stands text i (commaTokens (group.map fun column => [column.token])))
    (hj : j = i + (commaTokens (group.map fun column => [column.token])).length)
    (hstop : Stops text j groupEnds) :
    (groupRound []).run text (Construct.read text (d + 1)) i =
      .ok ((group.map (·.tree), false), j) := by
  have hitems := run_commaItems (fun column : ColumnRef => [column.token]) ColumnRef.tree
    (Construct.read text (d + 1)) (do
      if ← sees (isOneOf ["CUBE", "ROLLUP"]) then return none else readAssignment) groupEnds hne
    (fun column hc place hplace hafter => ?_)
    (by decide) h (hj ▸ hstop)
  · rw [← hj] at hitems
    have hwords : (groupingWords false).run text (Construct.read text (d + 1)) j = .ok (none, j) := by
      refine (run_bind_ok (run_accepts_none _ (hstop.any (by decide))) _).trans ?_
      refine (run_bind_ok (run_accepts_none _ (hstop.any (by decide))) _).trans ?_
      exact (run_bind_ok (run_pure _ _) _).trans rfl
    have hsets : groupingSets.run text (Construct.read text (d + 1)) j = .ok (none, j) :=
      (run_bind_ok (run_accepts_none _ (hstop.any (by decide))) _).trans rfl
    have htotals : ∀ t ∈ groupEnds, isWritten "TOTALS" t = false := by decide +kernel
    refine (run_bind_ok hitems _).trans ((run_bind_ok (run_here _) _).trans ?_)
    refine (run_bind_ok (run_accepts_none _ (hstop.any (by decide))) _).trans ?_
    refine (run_bind_ok ((run_bind_ok hwords _).trans ((run_bind_ok hsets _).trans rfl)) _).trans ?_
    refine (run_bind_ok (run_phrase_none _ _ (hstop.any htotals)) _).trans ?_
    exact (run_bind_ok (run_back _ _) _).trans (by rw [Nat.min_self]; rfl)
  · have hwords : ∀ word ∈ ["CUBE", "ROLLUP"], isFreeKeyword word = false := by decide
    have hno := isOneOf_of_free (column.token_free (hgroup column hc)) hwords
    refine (run_bind_ok (run_sees_none _ (by simp [hplace.1, hno])) _).trans ?_
    exact run_assignment_column (hgroup column hc) hplace.1 (hafter.mono (by decide))

theorem run_group {group : List ColumnRef} (hne : group ≠ [])
    (hgroup : ∀ column ∈ group, column.isFree = true)
    (h : Stands text i (keywordToken "GROUP BY" :: commaTokens (group.map fun column => [column.token])))
    (hj : j = i + 1 + (commaTokens (group.map fun column => [column.token])).length)
    (hstop : Stops text j groupEnds) :
    clausesHere.run text (Construct.read text (d + 1)) i =
      .ok ([.node (.clause .group) "" (group.map (·.tree))], j) := by
  obtain ⟨hword, hitems⟩ := h
  have hround := run_groupRound (d := d) hne hgroup hitems hj hstop
  have hfirst : 0 < (commaTokens (group.map fun column => [column.token])).length ∧
      ∃ t, text[i + 1]? = some t ∧ isFreeToken t = true := by
    obtain ⟨column, rest, rfl⟩ := List.exists_cons_of_ne_nil hne
    exact ⟨by simp [commaTokens, separatedTokens], _, hitems.1,
      column.token_free (hgroup column List.mem_cons_self)⟩
  obtain ⟨hpos, t, ht, hfree⟩ := hfirst
  have hkeyword : ∀ name ∈ ["ALL", "DISTINCT"], isFreeKeyword name = false := by decide
  have hle := hitems.length_le
  have hgroupItems : groupItems.run text (Construct.read text (d + 1)) (i + 1) =
      .ok (.node (.clause .group) "" (group.map (·.tree)), j) := by
    refine (run_bind_ok (run_accepts_none _ (by simp [ht, isKeyword_of_free hfree, hkeyword])) _).trans ?_
    refine (run_bind_ok (run_accepts_none _ (by simp [ht, isKeyword_of_free hfree, hkeyword])) _).trans ?_
    have hlook : (look fun found => found.all (isOneOf clauseStarts)).run text
        (Construct.read text (d + 1)) (i + 1) = .ok (false, i + 1) := by
      rw [run_look, ht, Option.all_some, isOneOf_of_free hfree (by decide)]
    refine (run_bind_ok hlook _).trans ?_
    refine (run_bind_ok (run_loop (t := (group.map (·.tree), false)) (j := j)
      (.next (j := j) ?_ (by omega) (.stop ?_)) (by omega)) _).trans rfl
    · exact (run_bind_ok hround _).trans rfl
    · rfl
  refine (run_bind_ok (run_accepts_none _ (by simp [hword]; rfl)) _).trans ?_
  refine (run_bind_ok (run_accepts _ hword rfl) _).trans ?_
  exact (run_bind_ok hgroupItems _).trans rfl

/-- A clause of those that are tried after the keywords of all others. -/
theorem run_clausesHere_late {word : String} {c : Tree}
    {answer : {α : Type} → Construct α → Nat → Outcome α} (ht : text[i]? = some (keywordToken word))
    (hword : word ∈ ["ORDER BY", "LIMIT"])
    (hread : (firstOf [order, limit, offset, sample]).run text answer i = .ok (some c, j)) :
    clausesHere.run text answer i = .ok ([c], j) := by
  have hno : ∀ name ∈ ["WHERE", "GROUP BY", "HAVING", "QUALIFY", "WINDOW", "CLUSTER BY", "DISTRIBUTE BY",
      "SORT BY", "START WITH", "CONNECT BY"], (keyword name).run text answer i = .ok (false, i) := by
    have hall : ∀ word ∈ ["ORDER BY", "LIMIT"], ∀ name ∈ ["WHERE", "GROUP BY", "HAVING", "QUALIFY", "WINDOW",
        "CLUSTER BY", "DISTRIBUTE BY", "SORT BY", "START WITH", "CONNECT BY"],
        isKeyword name (keywordToken word) = false := by decide
    intro name hname
    exact run_accepts_none _ (by simp [ht, hall word hword name hname])
  refine (run_bind_ok (hno _ (by decide)) _).trans ((run_bind_ok (hno _ (by decide)) _).trans ?_)
  refine (run_bind_ok (hno _ (by decide)) _).trans ((run_bind_ok (hno _ (by decide)) _).trans ?_)
  refine (run_bind_ok (hno _ (by decide)) _).trans ((run_bind_ok (hno _ (by decide)) _).trans ?_)
  refine (run_bind_ok (hno _ (by decide)) _).trans ((run_bind_ok (hno _ (by decide)) _).trans ?_)
  refine (run_bind_ok (hno _ (by decide)) _).trans ((run_bind_ok (hno _ (by decide)) _).trans ?_)
  exact (run_bind_ok hread _).trans rfl

theorem run_ordered {column : ColumnRef} (hcolumn : column.isFree = true) {descending : Bool}
    (h : Stands text i (orderTokens column descending).tail)
    (hj : j = i + (orderTokens column descending).tail.length)
    (hstop : Stops text j [keywordToken "LIMIT"]) :
    ordered.run text (Construct.read text (d + 2)) i =
      .ok (some (.node (.clause .ordered) (if descending then "DESC" else "ASC NULLS LAST") [column.tree]),
        j) := by
  have hdisjunction : Stops text (i + 1) conditionEnds →
      disjunction.run text (Construct.read text (d + 2)) i = .ok (some column.tree, i + 1) :=
    fun hnext => run_plain ((isArgument_column hcolumn).read (d := d) h.1 (hnext.mono (by decide)))
      hnext
  subst hj
  have hno : ∀ t ∈ [keywordToken "LIMIT"], isWritten "NULLS" t = false := by decide +kernel
  cases descending with
  | true =>
    obtain ⟨-, hdesc, -⟩ := h
    refine (run_bind_ok (hdisjunction (stops_of_get hdesc (by decide))) _).trans ?_
    refine (run_bind_ok (run_accepts_none _ (by simp [hdesc]; rfl)) _).trans ?_
    refine (run_bind_ok (run_accepts _ hdesc rfl) _).trans ?_
    refine (run_bind_ok (run_phrase_none _ _ (hstop.any hno)) _).trans ?_
    exact (run_bind_ok (run_phrase_none _ _ (hstop.any hno)) _).trans rfl
  | false =>
    obtain ⟨-, hasc, hnulls, hlast, -⟩ := h
    have hword : isWritten "NULLS" (wordToken "NULLS") = true ∧ isWritten "LAST" (wordToken "LAST") = true ∧
        isWritten "FIRST" (wordToken "LAST") = false := by decide +kernel
    have hwords : ∀ ws, (written ("NULLS" :: ws)).run text (Construct.read text (d + 2)) (i + 1 + 1) =
        (written ws).run text (Construct.read text (d + 2)) (i + 1 + 1 + 1) :=
      fun ws => run_written_cons ws hnulls hword.1
    have hfirst := (hwords ["FIRST"]).trans (run_written_none _ _ (by simp [hlast, hword]))
    have hboth := (hwords ["LAST"]).trans (run_written_cons [] hlast hword.2.1)
    refine (run_bind_ok (hdisjunction (stops_of_get hasc (by decide))) _).trans ?_
    refine (run_bind_ok (run_accepts _ hasc rfl) _).trans ?_
    refine (run_bind_ok (run_accepts_none _ (by simp [hnulls]; rfl)) _).trans ?_
    refine (run_bind_ok (run_phrase_back hfirst (by omega)) _).trans ?_
    exact (run_bind_ok (run_phrase hboth) _).trans rfl

theorem run_someItems {answer : {α : Type} → Construct α → Nat → Outcome α} {what : String}
    {items : Reading (List Tree)} {t : Tree} {ts : List Tree}
    (h : items.run text answer i = .ok (t :: ts, j)) :
    (someItems what items).run text answer i = .ok (t :: ts, j) :=
  (run_bind_ok h _).trans rfl

theorem run_orderItems {answer : {α : Type} → Construct α → Nat → Outcome α} {t : Tree}
    (h : ordered.run text answer i = .ok (some t, j)) (hstop : Stops text j [keywordToken "LIMIT"]) :
    (orderItems .order).run text answer i = .ok (.node (.clause .order) "" [t], j) := by
  have hcomma : (commaItems ordered).run text answer i = .ok ([t], j) := by
    refine (run_bind_ok h _).trans (run_loop_stop ?_)
    exact (run_bind_ok (run_accepts_none _ (hstop.any (by decide))) _).trans rfl
  exact (run_bind_ok (run_someItems hcomma) _).trans rfl

theorem run_order {column : ColumnRef} (hcolumn : column.isFree = true) {descending : Bool}
    (h : Stands text i (orderTokens column descending))
    (hj : j = i + (orderTokens column descending).length)
    (hstop : Stops text j [keywordToken "LIMIT"]) :
    clausesHere.run text (Construct.read text (d + 2)) i =
      .ok ([orderTree column descending], j) := by
  have hlength : (orderTokens column descending).length = 1 + (orderTokens column descending).tail.length := by
    cases descending <;> rfl
  have hword : text[i]? = some (keywordToken "ORDER BY") := h.1
  have hread := run_ordered (d := d) (i := i + 1) (j := j) hcolumn h.2 (by omega) hstop
  have hitems := run_orderItems hread hstop
  have horder : order.run text (Construct.read text (d + 2)) i =
      .ok (some (orderTree column descending), j) :=
    (run_bind_ok (run_accepts _ hword rfl) _).trans ((run_bind_ok hitems _).trans rfl)
  exact run_clausesHere_late hword (by decide) ((run_bind_ok horder _).trans rfl)

/-- A limit at the end of the text. -/
theorem run_limit {digits : String} (h : Stands text i [keywordToken "LIMIT", numberToken digits])
    (hstop : Stops text (i + 2) []) :
    clausesHere.run text (Construct.read text (d + 2)) i = .ok ([limitTree digits], i + 2) := by
  obtain ⟨hword, hnumber, -⟩ := h
  have hno : ∀ p : Token → Bool, text[i + 2]?.any p = false := fun p => hstop.any (by simp)
  have hcount : term.run text (Construct.read text (d + 2)) (i + 1) =
      .ok (some (.node .number digits []), i + 2) :=
    run_term (run_unary_number (d := d) hnumber rfl (hstop.mono (by simp))) (hstop.mono (by simp))
  have hoptions : limitOptions.run text (Construct.read text (d + 2)) (i + 2) = .ok ((), i + 2) := by
    refine (run_bind_ok ((run_bind_ok (run_accepts_none _ (hno _)) _).trans
      (run_accepts_none _ (hno _))) _).trans ?_
    refine (run_bind_ok (run_accepts_none _ (hno _)) _).trans ?_
    refine (run_bind_ok (run_phrase_none _ _ (hno _)) _).trans ?_
    exact (run_bind_ok (run_phrase_none _ _ (hno _)) _).trans rfl
  have hby : limitBy.run text (Construct.read text (d + 2)) (i + 2) = .ok ([], i + 2) :=
    (run_bind_ok (run_phrase_none _ _ (hno _)) _).trans rfl
  have hlimit : limit.run text (Construct.read text (d + 2)) i =
      .ok (some (limitTree digits), i + 2) := by
    refine (run_bind_ok (run_accepts _ hword rfl) _).trans ((run_bind_ok hcount _).trans ?_)
    refine (run_bind_ok (run_accepts_none _ (hno _)) _).trans ?_
    exact (run_bind_ok hoptions _).trans ((run_bind_ok hby _).trans rfl)
  have horder : order.run text (Construct.read text (d + 2)) i = .ok (none, i) :=
    (run_bind_ok (run_accepts_none _ (by simp [hword]; rfl)) _).trans rfl
  exact run_clausesHere_late hword (by decide)
    ((run_bind_ok horder _).trans ((run_bind_ok hlimit _).trans rfl))

end

end QueryGate
