import QueryGate.Proofs.Query.Call
/-! Predicates of a query and the conditions they are joined to, read where their tokens stand. -/

namespace QueryGate

open Grammar Reading

/-- How often a predicate is negated: so deep its readers stand inside one another. -/
def Predicate.depth : Predicate → Nat
  | .negated p => p.depth + 1
  | _ => 0

section

variable {text : Array Token} {i j k d : Nat}

/-- Two operands with an operator between them. -/
theorem run_chain_two {answer : {α : Type} → Construct α → Nat → Outcome α}
    (operator : Reading (Option String)) {operand : Reading (Option Tree)} {key : String}
    {left right : Tree} (hleft : operand.run text answer i = .ok (some left, j))
    (hoperator : operator.run text answer j = .ok (some key, j + 1))
    (hright : operand.run text answer (j + 1) = .ok (some right, k)) (hjk : j < k) (hk : k ≤ text.size)
    (hstop : operator.run text answer k = .ok (none, k)) :
    (chain operator operand).run text answer i = .ok (some (.node (.op key) "" [left, right]), k) := by
  refine (run_bind_ok hleft _).trans (run_loop (.next ?_ hjk (.stop ?_)) (by omega))
  · refine (run_bind_ok hoperator _).trans ?_
    exact (run_bind_ok ((run_bind_ok hright _).trans rfl) _).trans rfl
  · exact (run_bind_ok hstop _).trans rfl

theorem run_operatorOf {answer : {α : Type} → Construct α → Nat → Outcome α}
    {table : List (String × String)} {t : Token} {key : String} (ht : text[i]? = some t)
    (hkey : operatorName? table t = some key) :
    (operatorOf table).run text answer i = .ok (some key, i + 1) :=
  (run_bind_ok (run_matchToken _ ht (by simp [hkey])) _).trans (by simp [hkey, run_pure])

theorem lt_size {t : Token} (h : text[i]? = some t) : i < text.size :=
  (Array.getElem?_eq_some_iff.mp h).1

/-- A column compared to a value. -/
theorem run_compare {column : ColumnRef} (hcolumn : column.isFree = true) (how : Comparison)
    (value : String) (h : Stands text i (Predicate.compare column how value).tokens)
    (hstop : Stops text (i + 3) equalityEnds) :
    readEquality.run text (Construct.read text (d + 1)) i =
      .ok (some (Predicate.compare column how value).tree, i + 3) := by
  obtain ⟨hfirst, hhow, hvalue, -⟩ := h
  have hsigns : isNamed "<" (textToken value) = false ∧ isNamed ">" (textToken value) = false := by
    simp [isNamed, textToken]
  have hend : OperandEnd text (i + 1) := by
    refine ⟨stops_of_get hhow (by cases how <;> decide), fun name hname => ?_⟩
    simp only [List.mem_cons, List.not_mem_nil, or_false] at hname
    rcases hname with rfl | rfl <;> simp [hhow, hvalue, hsigns]
  have hstop' : Stops text (i + 1) (["=", "<>", ">", "<", ">=", "<="].map symbolToken ++ equalityEnds) :=
    stops_of_get hhow (by cases how <;> decide)
  have hleft := run_range ((isArgument_column hcolumn).read (d := d) hfirst hend.stops) hend hstop'
  have hright := run_range ((isArgument_text value).read (d := d) hvalue (hstop.mono (by decide)))
    (.of_stops hstop (by decide) (by decide)) (hstop.mono (by decide))
  have hsize := lt_size hvalue
  cases how with
  | equal | unequal =>
    have hcolumn : readComparison.run text (Construct.read text (d + 1)) i =
        .ok (some column.tree, i + 1) :=
      run_chain_end hleft (run_operatorOf_none _ (by simp [hhow]; decide))
    have hliteral : readComparison.run text (Construct.read text (d + 1)) (i + 2) =
        .ok (some (stringTree value), i + 3) :=
      run_chain_end hright (run_operatorOf_none _ (hstop.any (by decide)))
    exact run_chain_two _ hcolumn (run_operatorOf hhow (by decide)) hliteral (by omega) (by omega)
      (run_operatorOf_none _ (hstop.any (by decide)))
  | greater | less | greaterOrEqual | lessOrEqual =>
    have hcompared := run_chain_two (operatorOf [(">", "GT"), (">=", "GTE"), ("<", "LT"), ("<=", "LTE")])
      hleft (run_operatorOf hhow rfl) hright (by omega) (by omega)
      (run_operatorOf_none _ (hstop.any (by decide)))
    exact run_chain_end hcompared (run_operatorOf_none _ (hstop.any (by decide)))

/-- Words that start a test of the operand before them. -/
def testWords : List Token :=
  ["LIKE", "ILIKE", "IN", "BETWEEN"].map keywordToken

/-- A column with a test of it behind. -/
theorem run_range_test {column : ColumnRef} (hcolumn : column.isFree = true) {t : Token} {test : Tree}
    (hfirst : text[i]? = some column.token) (hword : text[i + 1]? = some t) (ht : t ∈ testWords)
    (htest : (rangeTest (some column.tree)).run text (Construct.read text (d + 1)) (i + 1) =
      .ok (some test, k)) (hstop : Stops text k equalityEnds) :
    readRange.run text (Construct.read text (d + 1)) i = .ok (some test, k) := by
  have hnext : Stops text (i + 1) testWords := stops_of_get hword ht
  have hleft := run_bitwise ((isArgument_column hcolumn).read (d := d) hfirst
    (hnext.mono (by decide))) (.of_stops hnext (by decide) (by decide))
  refine (run_bind_ok hleft _).trans ?_
  refine (run_bind_ok (run_accepts_none _ (hnext.any (by decide))) _).trans ?_
  refine (run_bind_ok (run_sees_none _ (hnext.any (by decide))) _).trans ?_
  refine (run_bind_ok htest _).trans ((run_bind_ok (run_pure _ _) _).trans ?_)
  exact (run_bind_ok (run_isTest_none _ (hstop.any (by decide))) _).trans rfl

/-- A value with no operator of arithmetic behind it. -/
theorem run_bitwise_text {value : String} (h : text[i]? = some (textToken value))
    (hstop : Stops text (i + 1) equalityEnds) :
    readBitwise.run text (Construct.read text (d + 1)) i = .ok (some (stringTree value), i + 1) :=
  run_bitwise ((isArgument_text value).read (d := d) h (hstop.mono (by decide)))
    (.of_stops hstop (by decide) (by decide))

theorem run_like {column : ColumnRef} (hcolumn : column.isFree = true) (word : String)
    (hword : word ∈ ["LIKE", "ILIKE"]) {value : String}
    (h : Stands text i [column.token, keywordToken word, textToken value])
    (hstop : Stops text (i + 3) equalityEnds) :
    readRange.run text (Construct.read text (d + 1)) i =
      .ok (some (.node (.op word) "" [column.tree, stringTree value]), i + 3) := by
  obtain ⟨hfirst, hlike, hvalue, -⟩ := h
  have hall : ∀ word ∈ ["LIKE", "ILIKE"], keywordToken word ∈ testWords ∧
      isKeyword "BETWEEN" (keywordToken word) = false ∧ isKeyword "IN" (keywordToken word) = false ∧
      operatorName? patternOperators (keywordToken word) = some word := by decide
  obtain ⟨hmem, hbetween, hin, hkey⟩ := hall word hword
  refine run_range_test hcolumn hfirst hlike hmem ?_ hstop
  refine (run_bind_ok (run_accepts_none _ (by simp [hlike, hbetween])) _).trans ?_
  refine (run_bind_ok (run_accepts_none _ (by simp [hlike, hin])) _).trans ?_
  refine (run_bind_ok (run_operatorOf hlike hkey) _).trans ?_
  refine (run_bind_ok ((run_bind_ok (run_pure _ _) _).trans rfl) _).trans ?_
  refine (run_bind_ok ((run_bind_ok (run_bitwise_text hvalue hstop) _).trans rfl) _).trans ?_
  refine (run_bind_ok ((run_bind_ok (run_accepts_none _ (hstop.any (by decide))) _).trans rfl) _).trans ?_
  rfl

theorem run_between {column : ColumnRef} (hcolumn : column.isFree = true) {low high : String}
    (h : Stands text i (Predicate.between column low high).tokens)
    (hstop : Stops text (i + 5) equalityEnds) :
    readRange.run text (Construct.read text (d + 1)) i =
      .ok (some (Predicate.between column low high).tree, i + 5) := by
  obtain ⟨hfirst, hbetween, hlow, hand, hhigh, -⟩ := h
  have hmiddle : Stops text (i + 3) equalityEnds := stops_of_get hand (by decide)
  have hread : (betweenOf column.tree).run text (Construct.read text (d + 1)) (i + 2) =
      .ok (.node (.op "BETWEEN") "" [column.tree, stringTree low, stringTree high], i + 5) := by
    refine (run_bind_ok ((run_bind_ok (run_bitwise_text hlow hmiddle) _).trans rfl) _).trans ?_
    refine (run_bind_ok (run_accepts _ hand rfl) _).trans ?_
    exact (run_bind_ok ((run_bind_ok (run_bitwise_text hhigh hstop) _).trans rfl) _).trans rfl
  refine run_range_test hcolumn hfirst hbetween (by decide) ?_ hstop
  refine (run_bind_ok (run_accepts _ hbetween rfl) _).trans ?_
  refine (run_bind_ok ((run_bind_ok (run_pure _ _) _).trans rfl) _).trans ?_
  exact (run_bind_ok hread _).trans rfl

/-- A column compared with the members of a list. -/
theorem run_members {column : ColumnRef} (hcolumn : column.isFree = true) {values : List String}
    (hvalues : values ≠ []) (h : Stands text i (Predicate.oneOf column values).tokens)
    (hstop : Stops text (i + (Predicate.oneOf column values).tokens.length) equalityEnds) :
    readRange.run text (Construct.read text (d + 3)) i =
      .ok (some (Predicate.oneOf column values).tree,
        i + (Predicate.oneOf column values).tokens.length) := by
  simp only [Predicate.tokens] at h hstop ⊢
  obtain ⟨hfirst, hin, hopen, hrest⟩ := h
  obtain ⟨hitems, hclose, -⟩ := stands_append.mp hrest
  have hread := run_commaItems (fun value => [textToken value]) stringTree (Construct.read text (d + 3))
    (queryOrExpression false) [symbolToken ")"] hvalues
    (fun value _ place hplace hafter =>
      run_queryOrExpression hplace.1 (isArgument_text value) hafter) (by decide) hitems
    (stops_of_get hclose List.mem_cons_self)
  have hmembers : (membersOf column.tree).run text (Construct.read text (d + 3)) (i + 2) =
      .ok (.node (.op "IN") "" (column.tree :: values.map stringTree), i + 1 + 1 + 1 +
        (commaTokens (values.map fun value => [textToken value])).length + 1) := by
    refine (run_bind_ok (run_accepts _ hopen rfl) _).trans ?_
    refine (run_bind_ok hread _).trans ?_
    -- A single member might be a query.
    cases values with
    | nil => exact absurd rfl hvalues
    | cons value rest =>
      cases rest <;>
        exact (run_bind_ok (run_pure _ _) _).trans ((run_bind_ok (run_needSymbol hclose rfl) _).trans rfl)
  have htest : (rangeTest (some column.tree)).run text (Construct.read text (d + 3)) (i + 1) =
      .ok (some (Predicate.oneOf column values).tree, i + 1 + 1 + 1 +
        (commaTokens (values.map fun value => [textToken value])).length + 1) := by
    refine (run_bind_ok (run_accepts_none _ (by simp [hin]; rfl)) _).trans ?_
    refine (run_bind_ok (run_accepts _ hin rfl) _).trans ?_
    refine (run_bind_ok ((run_bind_ok (run_pure _ _) _).trans rfl) _).trans ?_
    exact (run_bind_ok hmembers _).trans rfl
  have hlength : i + (column.token :: keywordToken "IN" :: symbolToken "(" ::
      (commaTokens (values.map fun value => [textToken value]) ++ [symbolToken ")"])).length =
      i + 1 + 1 + 1 + (commaTokens (values.map fun value => [textToken value])).length + 1 := by
    simp only [List.length_cons, List.length_append, List.length_nil]
    omega
  rw [hlength] at hstop ⊢
  exact run_range_test hcolumn hfirst hin (by decide) htest hstop

/-- A column that is null. -/
theorem run_isNull {column : ColumnRef} (hcolumn : column.isFree = true)
    (h : Stands text i (Predicate.isNull column).tokens) (hstop : Stops text (i + 3) equalityEnds) :
    readRange.run text (Construct.read text (d + 1)) i =
      .ok (some (Predicate.isNull column).tree, i + 3) := by
  obtain ⟨hfirst, his, hnull, -⟩ := h
  have hnext : Stops text (i + 1) [keywordToken "IS"] := stops_of_get his List.mem_cons_self
  have hleft := run_bitwise ((isArgument_column hcolumn).read (d := d) hfirst
    (hnext.mono (by decide))) (.of_stops hnext (by decide) (by decide))
  have hright := run_bitwise (run_unary_null (d := d) hnull rfl (hstop.mono (by decide)))
    (.of_stops hstop (by decide) (by decide))
  have hdistinct : isWritten "DISTINCT" (keywordToken "NULL") = false := by decide +kernel
  have hread : (isOf column.tree).run text (Construct.read text (d + 1)) (i + 2) =
      .ok (some (.node (.op "IS") "" [column.tree, .node .null "" []]), i + 3) := by
    refine (run_bind_ok (run_accepts_none _ (by simp [hnull]; rfl)) _).trans ?_
    refine (run_bind_ok (run_phrase_none _ _ (by simp [hnull, hdistinct])) _).trans ?_
    refine (run_bind_ok hright _).trans ?_
    exact (run_bind_ok (run_columnSteps_end _ (hstop.mono (by decide))) _).trans rfl
  have htest : (isTest (some column.tree)).run text (Construct.read text (d + 1)) (i + 1) =
      .ok (some (.node (.op "IS") "" [column.tree, .node .null "" []]), i + 3) := by
    refine (run_bind_ok (run_here _) _).trans ((run_bind_ok (run_accepts _ his rfl) _).trans ?_)
    refine (run_bind_ok ((run_bind_ok (run_pure _ _) _).trans rfl) _).trans ?_
    exact (run_bind_ok hread _).trans rfl
  refine (run_bind_ok hleft _).trans ?_
  refine (run_bind_ok (run_accepts_none _ (hnext.any (by decide))) _).trans ?_
  have hsees : (seesKeyword "IS").run text (Construct.read text (d + 1)) (i + 1) = .ok (true, i + 1) := by
    rw [seesKeyword, run_sees, his]
    rfl
  refine (run_bind_ok hsees _).trans ((run_bind_ok htest _).trans ?_)
  exact (run_bind_ok (run_isTest_none _ (hstop.any (by decide))) _).trans rfl

/-- A column fitted to a regular expression by a function. -/
theorem run_regexp {column : ColumnRef} (hcolumn : column.isFree = true) {value : String}
    (h : Stands text i (Predicate.fits column .regexp value).tokens)
    (hstop : Stops text (i + 6) equalityEnds) :
    readUnary.run text (Construct.read text (d + 3)) i =
      .ok (some (Predicate.fits column .regexp value).tree, i + 6) := by
  obtain ⟨hname, hopen, hfirst, hcomma, hvalue, hclose, -⟩ := h
  refine run_unary_simple [(column.token, column.tree), (textToken value, stringTree value)]
    hname isFunction_regexp hopen (by simp) (fun x hx => ?_) rfl
    ⟨hfirst, hcomma, hvalue, hclose, trivial⟩ rfl (hstop.mono (by decide))
  simp only [List.mem_cons, List.not_mem_nil, or_false] at hx
  rcases hx with rfl | rfl
  · exact isArgument_column hcolumn
  · exact isArgument_text value

/-- A predicate is read as its tree. -/
theorem run_predicate {p : Predicate} (hp : p.isNamed = true) (h : Stands text i p.tokens)
    (hstop : Stops text (i + p.tokens.length) equalityEnds) :
    readEquality.run text (Construct.read text (d + p.depth + 3)) i =
      .ok (some p.tree, i + p.tokens.length) := by
  induction p generalizing i d with
  | compare column how value => exact run_compare (Predicate.isNamed_iff.mp hp).1 how value h hstop
  | fits column how value =>
    have hcolumn := (Predicate.isNamed_iff.mp hp).1
    cases how with
    | like => exact run_equality (run_like hcolumn "LIKE" (by decide) h hstop) hstop
    | ilike => exact run_equality (run_like hcolumn "ILIKE" (by decide) h hstop) hstop
    | regexp =>
      exact run_equality (run_range (run_regexp hcolumn h hstop) (.of_stops hstop (by decide) (by decide))
        (hstop.mono (by decide))) hstop
  | isNull column => exact run_equality (run_isNull (Predicate.isNamed_iff.mp hp).1 h hstop) hstop
  | oneOf column values =>
    obtain ⟨hcolumn, hvalues⟩ := Predicate.isNamed_iff.mp hp
    exact run_equality (run_members hcolumn (by simpa [Predicate.isComplete] using hvalues) h hstop) hstop
  | between column low high => exact run_equality (run_between (Predicate.isNamed_iff.mp hp).1 h hstop) hstop
  | negated p ih =>
    obtain ⟨hnot, hrest⟩ := h
    have hlength : i + (Predicate.negated p).tokens.length = i + 1 + p.tokens.length := by
      simp only [Predicate.tokens, List.length_cons]
      omega
    rw [hlength] at hstop ⊢
    have hread : equality.run text (Construct.read text (d + p.negated.depth + 3)) (i + 1) =
        .ok (some p.tree, i + 1 + p.tokens.length) := ih hp hrest hstop
    have hunary : readUnary.run text (Construct.read text (d + p.negated.depth + 3)) i =
        .ok (some (Predicate.negated p).tree, i + 1 + p.tokens.length) := by
      refine (run_bind_ok (run_accepts_none _ (by simp [hnot]; rfl)) _).trans ?_
      refine (run_bind_ok (run_accepts _ hnot rfl) _).trans ?_
      exact (run_bind_ok ((run_bind_ok hread _).trans rfl) _).trans rfl
    exact run_equality (run_range hunary (.of_stops hstop (by decide) (by decide))
      (hstop.mono (by decide))) hstop

end

/-! Conditions: groups of predicates joined by `AND`, and these joined by `OR`. -/

theorem separatedTokens_snoc {sep : Token} {items : List (List Token)} (hne : items ≠ [])
    (item : List Token) : separatedTokens sep (items ++ [item]) = separatedTokens sep items ++ sep :: item := by
  obtain ⟨first, rest, rfl⟩ := List.exists_cons_of_ne_nil hne
  simp [separatedTokens]

theorem separatedTokens_extend {sep : Token} (items : List (List Token)) (item more : List Token) :
    separatedTokens sep (items ++ [item ++ more]) = separatedTokens sep (items ++ [item]) ++ more := by
  cases items with
  | nil => simp [separatedTokens]
  | cons first rest => simp [separatedTokens]

theorem length_le_separatedTokens (sep : Token) {items : List (List Token)} {item : List Token}
    (h : item ∈ items) : item.length ≤ (separatedTokens sep items).length := by
  cases items with
  | nil => cases h
  | cons first rest =>
    rcases List.mem_cons.mp h with rfl | hrest
    · simp [separatedTokens]
    · obtain ⟨before, after, rfl⟩ := List.append_of_mem hrest
      simp only [separatedTokens, List.flatMap_append, List.flatMap_cons, List.length_append,
        List.length_cons]
      omega

def groupTokens (group : List Predicate) : List Token :=
  separatedTokens (keywordToken "AND") (group.map (·.tokens))

/-- What the groups of a condition are. -/
structure Condition.IsGrouped (c : Condition) (groups : List (List Predicate)) : Prop where
  nonempty : groups ≠ []
  group : ∀ group ∈ groups, group ≠ []
  tokens : c.tokens = separatedTokens (keywordToken "OR") (groups.map groupTokens)
  predicates : groups.flatten = c.predicates

theorem groupTokens_snoc {group : List Predicate} (hne : group ≠ []) (p : Predicate) :
    groupTokens (group ++ [p]) = groupTokens group ++ keywordToken "AND" :: p.tokens := by
  rw [groupTokens, List.map_append, List.map_singleton, separatedTokens_snoc (by simpa using hne)]
  rfl

theorem Condition.IsGrouped.both {c : Condition} {front : List (List Predicate)} {last : List Predicate}
    (h : c.IsGrouped (front ++ [last])) (p : Predicate) :
    (Condition.both c p).IsGrouped (front ++ [last ++ [p]]) where
  nonempty := by simp
  group := by
    intro group hgroup
    rcases List.mem_append.mp hgroup with hin | hin
    · exact h.group group (by simp [hin])
    · simp [List.mem_singleton.mp hin]
  tokens := by
    rw [Condition.tokens, h.tokens, List.map_append, List.map_append, List.map_singleton,
      List.map_singleton, groupTokens_snoc (h.group last (by simp)), separatedTokens_extend]
  predicates := by
    rw [Condition.predicates, ← h.predicates]
    simp

theorem Condition.IsGrouped.either {c : Condition} {groups : List (List Predicate)}
    (h : c.IsGrouped groups) (p : Predicate) : (Condition.either c p).IsGrouped (groups ++ [[p]]) where
  nonempty := by simp
  group := by
    intro group hgroup
    rcases List.mem_append.mp hgroup with hin | hin
    · exact h.group group hin
    · simp [List.mem_singleton.mp hin]
  tokens := by
    rw [Condition.tokens, h.tokens, List.map_append, List.map_singleton,
      separatedTokens_snoc (by simpa using h.nonempty)]
    simp [groupTokens, separatedTokens]
  predicates := by
    rw [Condition.predicates, ← h.predicates]
    simp

theorem Condition.isGrouped (c : Condition) : c.IsGrouped c.groups := by
  induction c with
  | test p =>
    exact ⟨by simp [groups], by simp [groups], by simp [groups, groupTokens, separatedTokens, tokens], rfl⟩
  | both c p ih =>
    obtain ⟨front, last, hlast⟩ : ∃ front last, c.groups = front ++ [last] :=
      ⟨_, _, (List.dropLast_concat_getLast ih.nonempty).symm⟩
    have hgroups : (Condition.both c p).groups = front ++ [last ++ [p]] := by simp [groups, hlast]
    rw [hgroups]
    exact (hlast ▸ ih).both p
  | either c p ih => exact ih.either p

theorem Predicate.depth_le (p : Predicate) : p.depth ≤ p.tokens.length := by
  induction p with
  | negated p ih => simpa [Predicate.depth, Predicate.tokens] using ih
  | _ => exact Nat.zero_le _

section

variable {text : Array Token} {i d : Nat}

/-- A condition is read as its tree. -/
theorem run_condition {c : Condition} (hc : c.isNamed = true) {bound : Nat} (hbound : c.tokens.length ≤ bound)
    (h : Stands text i c.tokens) (hstop : Stops text (i + c.tokens.length) conditionEnds) :
    readDisjunction.run text (Construct.read text (d + bound + 3)) i =
      .ok (some c.tree, i + c.tokens.length) := by
  have hgrouped := c.isGrouped
  obtain ⟨first, rest, hgroups⟩ := List.exists_cons_of_ne_nil hgrouped.nonempty
  rw [hgrouped.tokens, hgroups] at h hstop hbound ⊢
  have hdepth : ∀ group ∈ c.groups, ∀ p ∈ group, p.depth ≤ bound := by
    intro group hgroup p hp
    have hp' : p.tokens.length ≤ (groupTokens group).length :=
      length_le_separatedTokens _ (List.mem_map_of_mem hp)
    have hgroup' := length_le_separatedTokens (keywordToken "OR")
      (List.mem_map_of_mem (f := groupTokens) (hgroups ▸ hgroup))
    have hdepth := p.depth_le
    omega
  have hread := run_chain groupTokens (fun group => joinedTree "AND" (group.map (·.tree)))
    (Construct.read text (d + bound + 3)) (operatorOf [("OR", "OR")]) "OR" readConjunction conditionEnds
    (fun place hplace => run_operatorOf hplace rfl)
    (fun place hplace => run_operatorOf_none _ (hplace.any (by decide)))
    (fun group hgroup place hplace hafter => ?_) h hstop
  · exact hread.trans (by rw [Condition.tree, hgroups])
  · obtain ⟨p, ps, rfl⟩ := List.exists_cons_of_ne_nil (hgrouped.group group (hgroups ▸ hgroup))
    refine run_chain Predicate.tokens Predicate.tree (Construct.read text (d + bound + 3))
      (operatorOf [("AND", "AND")]) "AND" readEquality (keywordToken "OR" :: conditionEnds)
      (fun place hplace => run_operatorOf hplace rfl)
      (fun place hplace => run_operatorOf_none _ (hplace.any (by decide)))
      (fun q hq place hplace hafter => ?_) hplace hafter
    have hle := hdepth _ (hgroups ▸ hgroup) q hq
    have hmem : q ∈ c.predicates := hgrouped.predicates ▸ List.mem_flatten_of_mem (hgroups ▸ hgroup) hq
    have hnamed := List.all_eq_true.mp hc q hmem
    have hq' := run_predicate (d := d + (bound - q.depth)) hnamed hplace hafter
    have hdeep : d + (bound - q.depth) + q.depth + 3 = d + bound + 3 := by omega
    rwa [hdeep] at hq'

end

end QueryGate
