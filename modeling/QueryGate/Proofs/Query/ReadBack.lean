import QueryGate.Proofs.Query.Clause
/-! A whole query, read from its tokens: its head, its clauses in their order, and the statement round
them. -/

namespace QueryGate

open Grammar Reading

/-- A clause by the word it starts with, what follows the word, and what may stand behind it. -/
structure QueryClause where
  word : String
  rest : List Token
  tree : Tree
  ends : List Token

def QueryClause.tokens (c : QueryClause) : List Token :=
  keywordToken c.word :: c.rest

/-- Clauses in an order in which each may stand behind those before it. -/
def QueryClause.InOrder (cs : List QueryClause) : Prop :=
  cs.Pairwise fun a b => keywordToken b.word ∈ a.ends ∧ sameClause b.tree a.tree = false

def Select.clauses (s : Select) : List QueryClause :=
  (s.condition.map fun c =>
    ⟨"WHERE", c.tokens, .node (.clause .filter) "" [c.tree], filterEnds⟩).toList
  ++ (if s.group.isEmpty then [] else
    [⟨"GROUP BY", commaTokens (s.group.map fun column => [column.token]),
      .node (.clause .group) "" (s.group.map (·.tree)), groupEnds⟩])
  ++ (s.order.map fun (column, descending) =>
    ⟨"ORDER BY", (orderTokens column descending).tail, orderTree column descending,
      [keywordToken "LIMIT"]⟩).toList
  ++ (s.limit.map fun n =>
    ⟨"LIMIT", [numberToken (String.ofList (Nat.toDigits 10 n))],
      limitTree (String.ofList (Nat.toDigits 10 n)), []⟩).toList

theorem Select.clauseTokens_eq (s : Select) : s.clauseTokens = s.clauses.flatMap (·.tokens) := by
  unfold Select.clauseTokens Select.clauses
  cases s.condition <;> cases s.group.isEmpty <;> cases s.order <;> cases s.limit <;>
    simp [QueryClause.tokens, orderTokens]

/-- What stands in front of the clauses of a query that reads from a table with these names. -/
def Select.headTrees (s : Select) (path : List String) : List Tree :=
  [.node (.clause .projections) "" (s.projections.map (·.tree)),
    .node (.clause .source) "" [.node .table "" (path.map nameTree)]]

/-- The tree of a query that reads from a table with these names in place of its own. -/
def Select.treeFrom (s : Select) (path : List String) : Tree :=
  .node .select "" (s.headTrees path ++ s.clauses.map (·.tree))

theorem Select.tree_eq (s : Select) : s.tree = s.treeFrom [s.database, s.table] := by
  unfold Select.tree Select.treeFrom Select.headTrees Select.clauses
  cases s.condition <;> cases s.group.isEmpty <;> cases s.order <;> cases s.limit <;> simp

theorem Select.clauses_inOrder (s : Select) : QueryClause.InOrder s.clauses := by
  have hfilter : ∀ word ∈ ["GROUP BY", "ORDER BY", "LIMIT"], keywordToken word ∈ filterEnds := by decide
  have hgroup : ∀ word ∈ ["ORDER BY", "LIMIT"], keywordToken word ∈ groupEnds := by decide
  unfold QueryClause.InOrder Select.clauses
  cases s.condition <;> cases s.group.isEmpty <;> cases s.order <;> cases s.limit <;>
    simp [hfilter, hgroup, sameClause, orderTree, limitTree, Tree.kind]

theorem Select.clauses_tree (s : Select) : ∀ c ∈ s.clauses,
    c.tree.kind ∈ [Clause.filter, .group, .order, .limit].map Kind.clause := by
  unfold Select.clauses
  cases s.condition <;> cases s.group.isEmpty <;> cases s.order <;> cases s.limit <;>
    simp [orderTree, limitTree, Tree.kind]

theorem Select.clauses_word (s : Select) : ∀ c ∈ s.clauses,
    c.word ∈ ["WHERE", "GROUP BY", "ORDER BY", "LIMIT"] := by
  unfold Select.clauses
  cases s.condition <;> cases s.group.isEmpty <;> cases s.order <;> cases s.limit <;> simp

section

variable {text : Array Token} {i d : Nat}

theorem stops_end (h : Stops text i []) : text[i]? = none := by
  cases ht : text[i]? with
  | none => rfl
  | some t => exact absurd (h t ht) List.not_mem_nil

theorem run_nextClause {c : QueryClause} {this : Tree}
    (hword : isOneOf clauseStarts (keywordToken c.word) = true) (h : Stands text i c.tokens)
    (hread : clausesHere.run text (Construct.read text d) i = .ok ([c.tree], i + c.tokens.length))
    (hnew : this.parts.any (sameClause c.tree) = false) :
    (nextClause this).run text (Construct.read text (d + 1)) i =
      .ok (some (this.append c.tree), i + c.tokens.length) := by
  have hopens : (Reading.opens clauseStarts).run text (Construct.read text (d + 1)) i =
      .ok (true, i) := by
    rw [Reading.run, h.1, Option.any_some, hword]
  have hclause : (inner .clause).run text (Construct.read text (d + 1)) i =
      .ok ((c.word, [c.tree]), i + c.tokens.length) := read_clause h.1 hword hread
  have hadd : (addClauses i this).run text (Construct.read text (d + 1)) i =
      .ok (some (this.append c.tree), i + c.tokens.length) := by
    refine (run_bind_ok hclause _).trans ?_
    simp only [hnew, Bool.false_eq_true, if_false]
    rfl
  exact (run_bind_ok (run_here i) _).trans ((run_bind_ok hopens _).trans hadd)

theorem run_nextClause_end {this : Tree} {answer : {α : Type} → Construct α → Nat → Outcome α}
    (h : Stops text i []) : (nextClause this).run text answer i = .ok (none, i) := by
  have hopens : (Reading.opens clauseStarts).run text answer i = .ok (false, i) := by
    simp [Reading.run, stops_end h]
  exact (run_bind_ok (run_here i) _).trans ((run_bind_ok hopens _).trans rfl)

/-- Clauses in order are added one after the other. -/
theorem steps_clauses {cs : List QueryClause} (horder : QueryClause.InOrder cs)
    (hword : ∀ c ∈ cs, isOneOf clauseStarts (keywordToken c.word) = true)
    (hread : ∀ c ∈ cs, ∀ i, Stands text i c.tokens → Stops text (i + c.tokens.length) c.ends →
      clausesHere.run text (Construct.read text d) i = .ok ([c.tree], i + c.tokens.length))
    (this : Tree) (hnew : ∀ c ∈ cs, this.parts.any (sameClause c.tree) = false)
    (h : Stands text i (cs.flatMap (·.tokens)))
    (hend : Stops text (i + (cs.flatMap (·.tokens)).length) []) :
    Steps (fun t i => (nextClause t).run text (Construct.read text (d + 1)) i) this i
      (cs.foldl (fun t c => t.append c.tree) this) (i + (cs.flatMap (·.tokens)).length) := by
  induction cs generalizing this i with
  | nil => exact .stop (run_nextClause_end hend)
  | cons c cs ih =>
    rw [List.flatMap_cons] at h hend ⊢
    rw [List.length_append, ← Nat.add_assoc] at hend ⊢
    obtain ⟨hc, hcs⟩ := stands_append.mp h
    obtain ⟨hbehind, horder⟩ := List.pairwise_cons.mp horder
    have hstop : Stops text (i + c.tokens.length) c.ends := by
      cases cs with
      | nil => exact hend.mono (by simp)
      | cons d ds => exact stops_of_get hcs.1 (hbehind d List.mem_cons_self).1
    refine .next (run_nextClause (hword c List.mem_cons_self) hc (hread c List.mem_cons_self i hc hstop)
      (hnew c List.mem_cons_self)) (by simp [QueryClause.tokens])
      (ih horder (fun d hd => hword d (List.mem_cons_of_mem _ hd))
        (fun d hd => hread d (List.mem_cons_of_mem _ hd)) _ (fun d hd => ?_) hcs hend)
    obtain ⟨kind, content, parts⟩ := this
    have hold := hnew d (List.mem_cons_of_mem _ hd)
    simp only [Tree.parts] at hold
    simp [Tree.append, Tree.parts, hold, (hbehind d hd).2]

theorem foldl_append {cs : List QueryClause} (kind : Kind) (content : String) (parts : List Tree) :
    cs.foldl (fun t c => Tree.append t c.tree) (Tree.node kind content parts) =
      Tree.node kind content (parts ++ cs.map (·.tree)) := by
  induction cs generalizing parts with
  | nil => simp
  | cons c cs ih =>
    rw [List.foldl_cons, Tree.append, ih, List.map_cons, List.append_assoc, List.singleton_append]

theorem Select.run_clause {s : Select} (hs : s.IsNamed) {bound : Nat}
    (hbound : ∀ c ∈ s.condition, c.tokens.length ≤ bound) {c : QueryClause} (hc : c ∈ s.clauses)
    (h : Stands text i c.tokens) (hstop : Stops text (i + c.tokens.length) c.ends) :
    clausesHere.run text (Construct.read text (d + bound + 3)) i =
      .ok ([c.tree], i + c.tokens.length) := by
  simp only [Select.clauses, List.mem_append, Option.mem_toList, Option.map_eq_some_iff] at hc
  rcases hc with ((⟨condition, hcondition, rfl⟩ | hc) | ⟨⟨column, descending⟩, horder, rfl⟩)
    | ⟨n, -, rfl⟩
  · have hplace : i + (keywordToken "WHERE" :: condition.tokens).length = i + 1 + condition.tokens.length := by
      rw [List.length_cons]
      omega
    simp only [QueryClause.tokens, hplace] at h hstop ⊢
    exact run_filter (hs.condition condition hcondition) (hbound condition hcondition) h hstop
  · cases hgroup : s.group with
    | nil => simp [hgroup] at hc
    | cons first rest =>
      have hmem : c ∈ [QueryClause.mk "GROUP BY" (commaTokens (s.group.map fun column => [column.token]))
          (.node (.clause .group) "" (s.group.map (·.tree))) groupEnds] := by
        simpa only [hgroup, List.isEmpty_cons, Bool.false_eq_true, if_false] using hc
      rw [List.mem_singleton] at hmem
      subst hmem
      exact run_group (by simp [hgroup]) hs.group h (Nat.add_right_comm i _ 1) hstop
  · have htokens : orderTokens column descending =
        keywordToken "ORDER BY" :: (orderTokens column descending).tail := by
      cases descending <;> rfl
    exact run_order (hs.order _ horder) (htokens ▸ h) (congrArg (i + ·.length) htokens).symm hstop
  · exact run_limit h hstop

/-! What stands in front of the clauses. -/

theorem Projection.tokens_head {p : Projection} (hp : p.isFree = true) :
    ∃ t rest, p.tokens = t :: rest ∧ isFreeToken t = true ∧ t.kind ≠ .hint := by
  obtain ⟨column, aggregation, outputName⟩ := p
  simp only [Projection.isFree, Bool.and_eq_true] at hp
  cases aggregation with
  | some a => exact ⟨_, _, rfl, rfl, by simp [wordToken]⟩
  | none =>
    refine ⟨_, _, rfl, column.token_free hp.1, ?_⟩
    cases column with
    | star => simp [ColumnRef.token, symbolToken]
    | named name => rcases (isName_writtenToken hp.1).kind with hk | hk | hk <;> simp [ColumnRef.token, hk]

def sourceTokens (path : List String) : List Token :=
  keywordToken "FROM" :: tableTokens path

def Select.headTokens (s : Select) (path : List String) : List Token :=
  commaTokens (s.projections.map (·.tokens)) ++ sourceTokens path

/-- The tokens of a query that reads from a table with these names in place of its own. -/
def Select.tokensFrom (s : Select) (path : List String) : List Token :=
  keywordToken "SELECT" :: (s.headTokens path ++ s.clauseTokens)

theorem Select.tokens_eq (s : Select) : s.tokens = s.tokensFrom [s.database, s.table] := by
  simp [Select.tokens, Select.tokensFrom, Select.headTokens, sourceTokens, tableTokens, separatedTokens]

theorem read_source {path : List String} (hpath : IsPath path) (h : Stands text i (sourceTokens path))
    (hstop : Stops text (i + (sourceTokens path).length) tableEnds) :
    Construct.read text (d + 4) .source i =
      .ok (some (.node (.clause .source) "" [.node .table "" (path.map nameTree)]),
        i + (sourceTokens path).length) := by
  obtain ⟨hfrom, htable⟩ := h
  have hplace : i + (sourceTokens path).length = i + 1 + (tableTokens path).length := Nat.add_right_comm i _ 1
  rw [hplace] at hstop ⊢
  have hread := run_table (d := d) hpath htable hstop
  refine (run_bind_ok (run_accepts _ hfrom rfl) _).trans ?_
  exact (run_bind_ok ((run_bind_ok hread _).trans rfl) _).trans rfl

variable {path : List String}

theorem Select.run_head {s : Select} (hs : s.IsNamed) (hpath : IsPath path) (h : Stands text i (s.headTokens path))
    (hstop : Stops text (i + (s.headTokens path).length) tableEnds) :
    (readHead none).run text (Construct.read text (d + 4)) i =
      .ok (s.headTrees path, i + (s.headTokens path).length) := by
  obtain ⟨hitems, hsource⟩ := stands_append.mp h
  unfold Select.headTokens at hstop ⊢
  rw [List.length_append, ← Nat.add_assoc] at hstop ⊢
  obtain ⟨t, ht, hfree, hhint⟩ : ∃ t, text[i]? = some t ∧ isFreeToken t = true ∧ t.kind ≠ .hint := by
    obtain ⟨p, rest, hp⟩ := List.exists_cons_of_ne_nil hs.projections
    obtain ⟨t, more, ht, hkinds⟩ := p.tokens_head (hs.projection p (hp ▸ List.mem_cons_self))
    rw [hp, List.map_cons, ht] at hitems
    exact ⟨t, hitems.1, hkinds⟩
  have hno : text[i]?.any (isKeyword "AS") = false := by
    simpa [ht] using isKeyword_of_free hfree (by decide)
  have hbefore : ∀ name, isFreeKeyword name = false →
      (keywordBefore name).run text (Construct.read text (d + 4)) i = .ok (false, i) := fun name hname =>
    (run_bind_ok (run_take_none _ (by simp [ht, isKeyword_of_free hfree hname])) _).trans rfl
  have hprojections := run_commaItems Projection.tokens Projection.tree (Construct.read text (d + 4))
    readExpression [keywordToken "FROM"] hs.projections
    (fun p hp i hi hnext => Projection.run (d := d + 1) (hs.projection p hp) hi hnext)
    (by decide) hitems (stops_of_get hsource.1 List.mem_cons_self)
  refine (run_bind_ok (run_matchToken_none _ (by simp [ht, hhint])) _).trans ?_
  refine (run_bind_ok (hbefore _ (by decide)) _).trans ((run_bind_ok (hbefore _ (by decide)) _).trans ?_)
  refine (run_bind_ok (run_accepts_none _ hno) _).trans ((run_bind_ok (run_pure _ _) _).trans ?_)
  refine (run_bind_ok (run_pure none _) _).trans ?_
  refine (run_bind_ok hprojections _).trans ?_
  have hinto : into.run text (Construct.read text (d + 4))
      (i + (commaTokens (s.projections.map (·.tokens))).length) =
        .ok (none, i + (commaTokens (s.projections.map (·.tokens))).length) :=
    (run_bind_ok (run_accepts_none _ (by simp [hsource.1]; rfl)) _).trans rfl
  refine (run_bind_ok hinto _).trans ?_
  exact (run_bind_ok (show (inner .source).run text (Construct.read text (d + 4)) _ = _ from
    read_source hpath hsource hstop) _).trans rfl

/-! The statement. -/

theorem run_joins_none (h : Stops text i tableEnds) :
    Construct.read text (d + 1) .joins i = .ok ([], i) := by
  have hwords : joinWords.run text (Construct.read text d) i = .ok ("", i) := by
    refine (run_bind_ok (run_matchToken_none _ (h.any (by decide))) _).trans ?_
    refine (run_bind_ok (run_matchToken_none _ (h.any (by decide))) _).trans ?_
    exact (run_bind_ok (run_matchToken_none _ (h.any (by decide))) _).trans rfl
  have hjoin : join.run text (Construct.read text d) i = .ok (none, i) := by
    refine (run_bind_ok (run_accepts_none _ (h.any (by decide))) _).trans ((run_bind_ok (run_here i) _).trans ?_)
    refine (run_bind_ok hwords _).trans ?_
    refine (run_bind_ok (run_accepts_none _ (h.any (by decide))) _).trans ?_
    exact (run_bind_ok (run_back i i) _).trans (by rw [Nat.min_self]; rfl)
  exact run_loop_stop ((run_bind_ok hjoin _).trans rfl)

theorem run_laterals_none (h : Stops text i tableEnds) :
    Construct.read text (d + 1) .laterals i = .ok ([], i) := by
  refine run_loop_stop ?_
  have hlateral : lateral.run text (Construct.read text d) i = .ok (none, i) :=
    (run_bind_ok (run_accepts_none _ (h.any (by decide))) _).trans rfl
  exact (run_bind_ok hlateral _).trans rfl

/-- The modifiers of a query that has neither joins nor lateral views. -/
theorem run_modifiers {this that : Tree} {j : Nat} (hstop : Stops text i tableEnds)
    (h : Steps (fun t i => (nextClause t).run text (Construct.read text (d + 1)) i) this i that j)
    (hj : j - i ≤ text.size - i) :
    (readModifiers this).run text (Construct.read text (d + 1)) i = .ok (that, j) := by
  have hjoins : joins.run text (Construct.read text (d + 1)) i = .ok ([], i) := run_joins_none hstop
  have hlaterals : (inner .laterals).run text (Construct.read text (d + 1)) i = .ok ([], i) :=
    run_laterals_none hstop
  exact (run_bind_ok hjoins _).trans ((run_bind_ok hlaterals _).trans (run_loop h hj))

/-- No expression starts with the word `SELECT`. -/
theorem read_expression_none (h : text[i]? = some (keywordToken "SELECT")) :
    Construct.read text (d + 2) .expression i = .ok (none, i) := by
  have hstop : Stops text i [keywordToken "SELECT"] := stops_of_get h List.mem_cons_self
  have hend : OperandEnd text i := .of_stops hstop (by decide) (by decide)
  have hopens : ∀ name, text[i]?.any (isSymbol name) = false := by simp [h, isSymbol, keywordToken]
  have hcall : call.run text (Construct.read text (d + 1)) i = .ok (none, i) := by
    have hword : ∀ t ∈ [keywordToken "SELECT"], (true && (wordExpression? t).isSome) = false := by
      decide +kernel
    have hcallToken : ∀ t ∈ [keywordToken "SELECT"], isCallToken t = false := by decide
    have hinside : (parenthesised (callWith true false true (return none)) false true).run text
        (Construct.read text (d + 1)) i = .ok (none, i) :=
      (run_bind_ok (run_take_none _ (hstop.any fun t ht => by simp [hcallToken t ht])) _).trans rfl
    refine (run_bind_ok (run_here i) _).trans ?_
    refine (run_bind_ok (run_matchToken_none _ (hstop.any hword)) _).trans ?_
    refine (run_bind_ok hinside _).trans ?_
    exact (run_bind_ok (run_matchToken_none _ (hstop.any (by decide))) _).trans rfl
  have hname : name.run text (Construct.read text (d + 1)) i = .ok (none, i) :=
    run_nameWhere_none hstop (by decide) (by decide)
  have hfield : (field false).run text (Construct.read text (d + 1)) i = .ok (none, i) := by
    refine (run_bind_ok (run_primary_end hend.stops) _).trans ?_
    exact (run_bind_ok hcall _).trans ((run_bind_ok hname _).trans rfl)
  have hcolumn : readColumn.run text (Construct.read text (d + 1)) i = .ok (none, i) := by
    have hreference : columnReference.run text (Construct.read text (d + 1)) i = .ok (none, i) := by
      refine (run_bind_ok hfield _).trans ?_
      exact (run_bind_ok (run_take_none _ (by simp [h, isKeyword, keywordToken])) _).trans rfl
    exact (run_bind_ok hreference _).trans (run_brackets_end _ hend.stops)
  have hoperand : readOperand.run text (Construct.read text (d + 1)) i = .ok (none, i) := by
    refine (run_bind_ok (run_interval_none h (by decide)) _).trans ?_
    refine (run_bind_ok (run_typedLiteral_none h (by decide)) _).trans ?_
    exact (run_bind_ok hcolumn _).trans rfl
  have hunary : readUnary.run text (Construct.read text (d + 1)) i = .ok (none, i) := by
    refine (run_bind_ok (run_accepts_none _ (hopens _)) _).trans ?_
    refine (run_bind_ok (run_accepts_none _ (hstop.any (by decide))) _).trans ?_
    refine (run_bind_ok (run_accepts_none _ (hopens _)) _).trans ?_
    refine (run_bind_ok (run_accepts_none _ (hopens _)) _).trans ?_
    exact (run_bind_ok hoperand _).trans (run_zoned_end _ hend.stops)
  have hassignment : readAssignment.run text (Construct.read text (d + 1)) i = .ok (none, i) :=
    (run_bind_ok (run_plain hunary (hstop.mono (by decide))) _).trans
      ((run_bind_ok (run_accepts_none _ (hopens _)) _).trans rfl)
  refine (run_bind_ok hassignment _).trans ?_
  refine (run_bind_ok (run_offsetAhead_none (hstop.any (by decide))) _).trans ?_
  refine (run_bind_ok (run_accepts_none _ (hstop.any (by decide))) _).trans ?_
  refine (run_bind_ok (run_accepts_none _ (hopens _)) _).trans ?_
  exact (run_bind_ok (run_nameWhere_none hstop (by decide) (by decide)) _).trans rfl

theorem Select.condition_length_le (s : Select) :
    ∀ c ∈ s.condition, c.tokens.length ≤ s.clauseTokens.length := by
  intro c hc
  simp only [Select.clauseTokens, Option.mem_def.mp hc, List.length_append, List.length_cons]
  omega

/-- What stands behind the head of a query is one of its clauses. -/
theorem Select.stops_clauses {s : Select} (h : Stands text i s.clauseTokens)
    (hend : Stops text (i + s.clauseTokens.length) []) : Stops text i tableEnds := by
  rw [s.clauseTokens_eq] at h hend
  cases hclauses : s.clauses with
  | nil => exact (by simpa [hclauses] using hend : Stops text i []).mono (by simp)
  | cons c cs =>
    rw [hclauses, List.flatMap_cons] at h
    have hword := s.clauses_word c (hclauses ▸ List.mem_cons_self)
    exact stops_of_get h.1 (List.mem_map_of_mem hword)

/-- The clauses of a query are added to its head. -/
theorem Select.run_clauses {s : Select} (hs : s.IsNamed) (h : Stands text i s.clauseTokens)
    (hend : Stops text (i + s.clauseTokens.length) []) :
    (readModifiers (.node .select "" (s.headTrees path))).run text
        (Construct.read text (d + s.clauseTokens.length + 4)) i =
      .ok (s.treeFrom path, i + s.clauseTokens.length) := by
  have hwords : ∀ word ∈ ["WHERE", "GROUP BY", "ORDER BY", "LIMIT"],
      isOneOf clauseStarts (keywordToken word) = true := by decide
  have hkinds : ∀ kind ∈ [Clause.filter, .group, .order, .limit].map Kind.clause,
      kind ≠ .clause .fetch ∧ kind ≠ .clause .projections ∧ kind ≠ .clause .source := by decide
  have hle := h.length_le
  have hsteps := steps_clauses (d := d + s.clauseTokens.length + 3) s.clauses_inOrder
    (fun c hc => hwords _ (s.clauses_word c hc))
    (fun c hc i => s.run_clause hs s.condition_length_le hc)
    (.node .select "" (s.headTrees path)) (fun c hc => ?_) (s.clauseTokens_eq ▸ h)
    (s.clauseTokens_eq ▸ hend)
  · rw [← s.clauseTokens_eq, foldl_append] at hsteps
    exact run_modifiers (s.stops_clauses h hend) hsteps (by omega)
  · obtain ⟨hfetch, hprojections, hsource⟩ := hkinds _ (s.clauses_tree c hc)
    generalize c.tree = t at hfetch hprojections hsource ⊢
    obtain ⟨kind, content, parts⟩ := t
    simp only [Tree.kind] at hfetch hprojections hsource
    simp [Tree.parts, Select.headTrees, sameClause, Tree.kind, hfetch, hprojections, hsource]

theorem Select.run_body {s : Select} (hs : s.IsNamed) (hpath : IsPath path)
    (h : Stands text i (s.headTokens path ++ s.clauseTokens))
    (hend : Stops text (i + (s.headTokens path ++ s.clauseTokens).length) []) :
    (selectBody none).run text (Construct.read text (d + s.clauseTokens.length + 5)) i =
      .ok (s.treeFrom path, i + (s.headTokens path ++ s.clauseTokens).length) := by
  obtain ⟨hhead, hclauses⟩ := stands_append.mp h
  rw [List.length_append, ← Nat.add_assoc] at hend ⊢
  have hread := s.run_head (d := d + s.clauseTokens.length) hs hpath hhead (s.stops_clauses hclauses hend)
  refine (run_bind_ok (show (inner (.head none)).run text
    (Construct.read text (d + s.clauseTokens.length + 5)) i = _ from hread) _).trans ?_
  have hdepth : d + s.clauseTokens.length + 5 = d + 1 + s.clauseTokens.length + 4 := by omega
  rw [hdepth]
  exact s.run_clauses hs (d := d + 1) hclauses hend

theorem run_query {s : Select} (hs : s.IsNamed) (hpath : IsPath path) (h : Stands text i (s.tokensFrom path))
    (hend : Stops text (i + (s.tokensFrom path).length) []) :
    (readQuery ⟨false, false, true, true⟩).run text
        (Construct.read text (d + s.clauseTokens.length + 5)) i =
      .ok (some (s.treeFrom path), i + (s.tokensFrom path).length) := by
  have hselect : text[i]? = some (keywordToken "SELECT") := h.1
  have hplace : i + (s.tokensFrom path).length = i + 1 + (s.headTokens path ++ s.clauseTokens).length :=
    Nat.add_right_comm i _ 1
  rw [hplace] at hend ⊢
  have hbody := s.run_body (d := d) hs hpath h.2 hend
  have hctes : (inner .ctes).run text (Construct.read text (d + s.clauseTokens.length + 5)) i =
      .ok (none, i) :=
    (run_bind_ok (run_accepts_none _ (by simp [hselect]; rfl)) _).trans rfl
  have hsource : source.run text (Construct.read text (d + s.clauseTokens.length + 5)) i =
      .ok (none, i) :=
    (run_bind_ok (run_accepts_none _ (by simp [hselect]; rfl)) _).trans rfl
  have hplain : (plainQuery ⟨false, false, true, true⟩).run text
      (Construct.read text (d + s.clauseTokens.length + 5)) i =
        .ok ((some (s.treeFrom path), true), i + 1 + (s.headTokens path ++ s.clauseTokens).length) := by
    refine (run_bind_ok hsource _).trans ((run_bind_ok (run_accepts _ hselect rfl) _).trans ?_)
    exact (run_bind_ok hbody _).trans rfl
  refine (run_bind_ok hctes _).trans ?_
  refine (run_bind_ok hplain _).trans ?_
  exact (run_bind_ok (run_combinations_none (hend.mono (by simp)) (by simp [Select.treeFrom, Tree.kind])) _).trans rfl

/-- A query is a statement. -/
theorem read_statement {s : Select} (hs : s.IsNamed) (hpath : IsPath path) (h : Stands text i (s.tokensFrom path))
    (hend : Stops text (i + (s.tokensFrom path).length) []) :
    Construct.read text (d + s.clauseTokens.length + 6) .statement i =
      .ok (some (s.treeFrom path), i + (s.tokensFrom path).length) := by
  have hselect : text[i]? = some (keywordToken "SELECT") := h.1
  have haction : (actionAfter? (keywordToken "SELECT")).isSome = false := by decide +kernel
  have htake : (take startsAction).run text (Construct.read text (d + s.clauseTokens.length + 5)) i =
      .ok (none, i) := run_take_none _ (by simp [hselect, startsAction, haction])
  have hexpression : expression.run text (Construct.read text (d + s.clauseTokens.length + 5)) i =
      .ok (none, i) := by
    rw [expression, run_inner]
    exact read_expression_none (d := d + s.clauseTokens.length + 3) hselect
  have hplain : plainStatement.run text (Construct.read text (d + s.clauseTokens.length + 5)) i =
      .ok (some (s.treeFrom path), i + (s.tokensFrom path).length) := by
    refine (run_bind_ok (run_sees_none _ (by simp [hselect]; rfl)) _).trans ?_
    exact (run_bind_ok hexpression _).trans (run_query hs hpath h hend)
  have hquery : (s.treeFrom path).kind.isQuery = true := rfl
  have hnothing : (readModifiers (s.treeFrom path)).run text (Construct.read text (d + s.clauseTokens.length + 5))
      (i + (s.tokensFrom path).length) = .ok (s.treeFrom path, i + (s.tokensFrom path).length) :=
    run_modifiers (hend.mono (by simp)) (.stop (run_nextClause_end hend)) (by simp)
  refine (run_bind_ok htake _).trans ?_
  refine (run_bind_ok hplain _).trans ?_
  simp only [withModifiers, hquery, if_true]
  exact (run_bind_ok hnothing _).trans rfl

end

/-! The whole text. -/

theorem stands_toArray (ts us : List Token) : Stands (ts ++ us).toArray ts.length us := by
  induction us generalizing ts with
  | nil => trivial
  | cons u us ih =>
    refine ⟨by simp, ?_⟩
    have h := ih (ts ++ [u])
    rwa [List.append_assoc, List.singleton_append, List.length_append] at h

/-- A token that neither ends a statement nor has a comment. -/
def isUnsplit (t : Token) : Bool :=
  !isSymbol ";" t && !t.noted

theorem splitStatements_eq_self {ts : List Token} (h : ts.all isUnsplit = true) :
    splitStatements ts = [ts] := by
  induction ts with
  | nil => rfl
  | cons t ts ih =>
    rw [List.all_cons, Bool.and_eq_true] at h
    obtain ⟨ht, hrest⟩ := h
    obtain ⟨kind, content, name, noted⟩ := t
    simp only [isUnsplit, isSymbol, Bool.and_eq_true, Bool.not_eq_true'] at ht
    obtain ⟨hsymbol, rfl⟩ := ht
    simp only [splitStatements, hsymbol, ih hrest, Bool.false_eq_true, if_false]

/-- A token in a part of a query: it is no `FROM`, ends no statement, and has no comment. -/
def isPartToken (t : Token) : Bool :=
  isUnsplit t && !isKeyword "FROM" t

@[simp] theorem isPartToken_wordToken (word : String) : isPartToken (wordToken word) = true := by
  simp [isPartToken, isUnsplit, isSymbol, isKeyword, wordToken]

@[simp] theorem isPartToken_keywordToken (word : String) : isPartToken (keywordToken word) = (word != "FROM") := by
  by_cases h : word = "FROM" <;> simp [isPartToken, isUnsplit, isSymbol, isKeyword, keywordToken, h]

@[simp] theorem isPartToken_textToken (value : String) : isPartToken (textToken value) = true := by
  simp [isPartToken, isUnsplit, isSymbol, isKeyword, textToken]

@[simp] theorem isPartToken_numberToken (digits : String) : isPartToken (numberToken digits) = true := by
  simp [isPartToken, isUnsplit, isSymbol, isKeyword, numberToken]

@[simp] theorem isPartToken_symbolToken (symbol : String) : isPartToken (symbolToken symbol) = (symbol != ";") := by
  by_cases h : symbol = ";" <;> simp [isPartToken, isUnsplit, isSymbol, isKeyword, symbolToken, h]

theorem writtenToken_noted (name : String) : (writtenToken name).noted = false := by
  unfold writtenToken wordLexeme
  split
  · split <;> rfl
  · rfl

theorem isPartToken_writtenToken {name : String} (h : isFreeName name = true) : isPartToken (writtenToken name) = true := by
  have hname := isName_writtenToken h
  have hfrom : isKeyword "FROM" (writtenToken name) = false := isKeyword_of_free hname.free (by decide)
  simp [isPartToken, isUnsplit, hname.isSymbol_eq_false, writtenToken_noted, hfrom]

theorem ColumnRef.isPartToken_token {column : ColumnRef} (h : column.isFree = true) : isPartToken column.token = true := by
  cases column with
  | star => decide
  | named name => exact isPartToken_writtenToken h

theorem all_commaTokens {α : Type} {tokens : α → List Token} {xs : List α}
    (h : ∀ x ∈ xs, (tokens x).all isPartToken = true) : (commaTokens (xs.map tokens)).all isPartToken = true := by
  cases xs with
  | nil => rfl
  | cons x xs =>
    obtain ⟨hx, hxs⟩ := List.forall_mem_cons.mp h
    unfold commaTokens
    rw [separatedTokens_map, List.all_append, hx, Bool.true_and, List.all_flatMap, List.all_eq_true]
    intro y hy
    rw [List.all_cons, hxs y hy]
    decide

theorem Projection.all_tokens {p : Projection} (hp : p.isFree = true) : p.tokens.all isPartToken = true := by
  obtain ⟨column, aggregation, outputName⟩ := p
  simp only [Projection.isFree, Bool.and_eq_true] at hp
  have hcolumn := ColumnRef.isPartToken_token hp.1
  have hname : ∀ name ∈ outputName, isPartToken (writtenToken name) = true := fun name hname => by
    obtain rfl := Option.mem_def.mp hname
    simp only [Option.all_some, Bool.and_eq_true] at hp
    exact isPartToken_writtenToken hp.2.1
  cases aggregation <;> cases outputName <;> simp [Projection.tokens, Projection.valueTokens, hcolumn, hname]

theorem Predicate.all_tokens {p : Predicate} (hp : p.column.isFree = true) : p.tokens.all isPartToken = true := by
  have hcolumn := ColumnRef.isPartToken_token hp
  induction p with
  | compare column how value =>
    cases how <;> simpa [Predicate.tokens, Predicate.column, Comparison.label] using hcolumn
  | fits column test value => cases test <;> simpa [Predicate.tokens, Predicate.column] using hcolumn
  | isNull column => simpa [Predicate.tokens, Predicate.column] using hcolumn
  | oneOf column values =>
    have hvalues : (commaTokens (values.map fun value => [textToken value])).all isPartToken = true :=
      all_commaTokens (by simp)
    rw [Predicate.tokens, List.all_cons, List.all_cons, List.all_cons, List.all_append, hvalues]
    simpa [Predicate.column] using hcolumn
  | between column low high => simpa [Predicate.tokens, Predicate.column] using hcolumn
  | negated p ih =>
    rw [Predicate.tokens, List.all_cons, ih hp hcolumn]
    simp

theorem Condition.all_tokens {c : Condition} (hc : c.isNamed = true) : c.tokens.all isPartToken = true := by
  have hall : ∀ p ∈ c.predicates, p.tokens.all isPartToken = true := fun p hp =>
    Predicate.all_tokens (Predicate.isNamed_iff.mp (List.all_eq_true.mp hc p hp)).1
  clear hc
  induction c with
  | test p => exact hall p List.mem_cons_self
  | both c p ih =>
    rw [Condition.tokens, List.all_append, List.all_cons, ih fun q hq => hall q (List.mem_append_left _ hq),
      hall p (List.mem_append_right _ List.mem_cons_self)]
    simp
  | either c p ih =>
    rw [Condition.tokens, List.all_append, List.all_cons, ih fun q hq => hall q (List.mem_append_left _ hq),
      hall p (List.mem_append_right _ List.mem_cons_self)]
    simp

theorem Select.all_clauseTokens {s : Select} (hs : s.IsNamed) : s.clauseTokens.all isPartToken = true := by
  have hgroup : (commaTokens (s.group.map fun column => [column.token])).all isPartToken = true :=
    all_commaTokens fun column hcolumn => by simpa using ColumnRef.isPartToken_token (hs.group column hcolumn)
  have horder : ∀ o ∈ s.order, (orderTokens o.1 o.2).all isPartToken = true := by
    rintro ⟨column, descending⟩ ho
    have hcolumn := ColumnRef.isPartToken_token (hs.order _ ho)
    cases descending <;> simpa [orderTokens] using hcolumn
  have hcondition : ∀ c ∈ s.condition, c.tokens.all isPartToken = true := fun c hc =>
    Condition.all_tokens (hs.condition c hc)
  unfold Select.clauseTokens
  cases hwhere : s.condition <;> cases s.group.isEmpty <;> cases hby : s.order <;> cases s.limit <;>
    simp only [hwhere, hby, Option.mem_some_iff, forall_eq'] at hcondition horder <;>
    simp [List.all_append, hgroup, hcondition, horder]

/-- The tokens in front of the `FROM` of a query, and those behind it. -/
theorem Select.all_parts {s : Select} (hs : s.IsNamed) :
    (keywordToken "SELECT" :: commaTokens (s.projections.map (·.tokens))).all isPartToken = true ∧
      (tableTokens [s.database, s.table] ++ s.clauseTokens).all isPartToken = true := by
  have hprojections := all_commaTokens fun p hp => Projection.all_tokens (hs.projection p hp)
  have hdatabase := isPartToken_writtenToken hs.database
  have htable := isPartToken_writtenToken hs.table
  rw [List.all_cons, hprojections, List.all_append, Select.all_clauseTokens hs]
  simp [tableTokens, separatedTokens, hdatabase, htable]

theorem Select.tokens_parts (s : Select) : s.tokens =
    (keywordToken "SELECT" :: commaTokens (s.projections.map (·.tokens))) ++
      keywordToken "FROM" :: (tableTokens [s.database, s.table] ++ s.clauseTokens) :=
  rfl

theorem Select.isUnsplit_tokens {s : Select} (hs : s.IsNamed) : s.tokens.all isUnsplit = true := by
  have hunsplit : ∀ ts : List Token, ts.all isPartToken = true → ts.all isUnsplit = true := by
    intro ts h
    rw [List.all_eq_true] at h ⊢
    exact fun t ht => (Bool.and_eq_true _ _ ▸ h t ht).1
  obtain ⟨hfront, hback⟩ := Select.all_parts hs
  rw [s.tokens_parts, List.all_append, hunsplit _ hfront, List.all_cons, hunsplit _ hback]
  decide

theorem Select.parseStatement_tokensFrom {s : Select} (hs : s.IsNamed) {path : List String} (hpath : IsPath path) :
    parseStatement (s.tokensFrom path) = .ok (some (s.treeFrom path)) := by
  have hstands : Stands (s.tokensFrom path).toArray 0 (s.tokensFrom path) := stands_toArray [] (s.tokensFrom path)
  have hend : Stops (s.tokensFrom path).toArray (0 + (s.tokensFrom path).length) [] := by simp [Stops]
  have hdepth : depthFor (s.tokensFrom path) =
      (7 * (s.tokensFrom path).length + (s.headTokens path).length + 11) + s.clauseTokens.length + 6 := by
    rw [depthFor, Select.tokensFrom]
    simp only [List.length_cons, List.length_append]
    omega
  have hne : (s.tokensFrom path).isEmpty = false := rfl
  have hread := read_statement (d := 7 * (s.tokensFrom path).length + (s.headTokens path).length + 11) hs hpath hstands
    hend
  rw [← hdepth, Nat.zero_add] at hread
  simp only [parseStatement, hne, Bool.false_eq_true, if_false, hread]
  simp

theorem Select.parseStatement_tokens {s : Select} (hs : s.IsNamed) :
    parseStatement s.tokens = .ok (some s.tree) := by
  rw [s.tokens_eq, s.tree_eq]
  exact s.parseStatement_tokensFrom hs hs.path

/-- The text of a query is read as the tree of its parts, with each value as it is read. -/
theorem Select.parseSql_text {s : Select} (hs : s.IsNamed) : parseSql s.text = .ok [s.reread.tree] := by
  have hstatement := s.reread.parseStatement_tokens hs.reread
  have hstatements : (splitStatements s.reread.tokens).mapM parseStatement = .ok [some s.reread.tree] := by
    rw [splitStatements_eq_self (Select.isUnsplit_tokens hs.reread), List.mapM_cons, hstatement, List.mapM_nil]
    rfl
  unfold parseSql
  rw [s.tokenize_text hs]
  change ((splitStatements s.reread.tokens).mapM parseStatement >>= fun found =>
    pure (found.filterMap id) : Except SyntaxError (List Tree)) = _
  rw [hstatements]
  rfl

end QueryGate
