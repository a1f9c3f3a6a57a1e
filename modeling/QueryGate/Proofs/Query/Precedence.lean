import QueryGate.Proofs.Query.Definition
/-! Conditions are composed from left to right, but their text has no parentheses and is read with `AND`
before `OR`. What is read is the composed condition where no `AND` follows an `OR`; elsewhere it may hold
where the composed one does not. -/

namespace QueryGate

/-- The condition as it is composed, each predicate joined to all that stand before. -/
def Condition.composed : Condition → Tree
  | .test p => p.tree
  | .both c p => .node (.op "AND") "" [c.composed, p.tree]
  | .either c p => .node (.op "OR") "" [c.composed, p.tree]

def Condition.hasOr : Condition → Bool
  | .test _ => false
  | .both c _ => c.hasOr
  | .either _ _ => true

/-- Whether no `AND` follows an `OR`. -/
def Condition.keepsOrder : Condition → Bool
  | .test _ => true
  | .both c _ => !c.hasOr
  | .either c _ => c.keepsOrder

/-- The truth of a condition, given that of everything that is no `AND` or `OR` of two. -/
def Tree.value (truth : Tree → Bool) : Tree → Bool
  | .node kind text [left, right] =>
    if kind = .op "AND" then left.value truth && right.value truth
    else if kind = .op "OR" then left.value truth || right.value truth
    else truth (.node kind text [left, right])
  | t => truth t

theorem joinedTree_concat (key : String) {ts : List Tree} (hne : ts ≠ []) (t : Tree) :
    joinedTree key (ts ++ [t]) = .node (.op key) "" [joinedTree key ts, t] := by
  obtain ⟨first, rest, rfl⟩ := List.exists_cons_of_ne_nil hne
  simp [joinedTree]

/-! The groups of a condition. -/

theorem Condition.groups_both (c : Condition) (p : Predicate) : ∃ front last,
    c.groups = front ++ [last] ∧ last ≠ [] ∧ (Condition.both c p).groups = front ++ [last ++ [p]] := by
  have hgrouped := c.isGrouped
  obtain ⟨front, last, hlast⟩ : ∃ front last, c.groups = front ++ [last] :=
    ⟨_, _, (List.dropLast_concat_getLast hgrouped.nonempty).symm⟩
  exact ⟨front, last, hlast, hgrouped.group last (by simp [hlast]), by simp [groups, hlast]⟩

theorem Condition.tree_either (c : Condition) (p : Predicate) :
    (Condition.either c p).tree = .node (.op "OR") "" [c.tree, p.tree] := by
  have hne := c.isGrouped.nonempty
  rw [tree, groups, List.map_append, List.map_singleton, joinedTree_concat _ (by simpa using hne)]
  rfl

theorem Condition.groups_of_not_hasOr {c : Condition} (h : c.hasOr = false) :
    ∃ group, c.groups = [group] ∧ joinedTree "AND" (group.map (·.tree)) = c.composed := by
  induction c with
  | test p => exact ⟨[p], rfl, rfl⟩
  | both c p ih =>
    obtain ⟨group, hgroups, hcomposed⟩ := ih h
    have hne : group ≠ [] := c.isGrouped.group group (by simp [hgroups])
    refine ⟨group ++ [p], by simp [groups, hgroups], ?_⟩
    rw [List.map_append, List.map_singleton, joinedTree_concat _ (by simpa using hne), hcomposed]
    rfl
  | either c p ih => exact absurd h (by simp [hasOr])

theorem Condition.tree_eq_composed {c : Condition} (h : c.keepsOrder = true) : c.tree = c.composed := by
  induction c with
  | test p => rfl
  | both c p ih =>
    obtain ⟨group, hgroups, hcomposed⟩ := groups_of_not_hasOr (c := .both c p)
      (by simpa [keepsOrder, hasOr] using h)
    rw [tree, hgroups, ← hcomposed]
    rfl
  | either c p ih => rw [tree_either, ih h, composed]

/-! Truth. -/

section

variable {truth : Tree → Bool}

theorem value_and (left right : Tree) : (Tree.node (.op "AND") "" [left, right]).value truth =
    (left.value truth && right.value truth) := by
  simp [Tree.value]

theorem value_or (left right : Tree) : (Tree.node (.op "OR") "" [left, right]).value truth =
    (left.value truth || right.value truth) := by
  simp [Tree.value]

theorem value_joined_and {ts : List Tree} (hne : ts ≠ []) :
    (joinedTree "AND" ts).value truth = ts.all (·.value truth) := by
  obtain ⟨first, rest, rfl⟩ := List.exists_cons_of_ne_nil hne
  rw [joinedTree, List.all_cons]
  induction rest generalizing first with
  | nil => simp
  | cons t rest ih => rw [List.foldl_cons, ih _ (by simp), value_and, List.all_cons, Bool.and_assoc]

theorem value_joined_or {ts : List Tree} (hne : ts ≠ []) :
    (joinedTree "OR" ts).value truth = ts.any (·.value truth) := by
  obtain ⟨first, rest, rfl⟩ := List.exists_cons_of_ne_nil hne
  rw [joinedTree, List.any_cons]
  induction rest generalizing first with
  | nil => simp
  | cons t rest ih => rw [List.foldl_cons, ih _ (by simp), value_or, List.any_cons, Bool.or_assoc]

theorem Predicate.value_tree (p : Predicate) : p.tree.value truth = truth p.tree := by
  cases p with
  | compare column how value => cases how <;> simp [tree, Tree.value, Comparison.key]
  | fits column how value => cases how <;> simp [tree, Tree.value]
  | oneOf column values =>
    rcases values with _ | ⟨value, _ | ⟨other, rest⟩⟩ <;> simp [tree, Tree.value]
  | _ => simp [tree, Tree.value]

/-- Read back, a condition holds where all predicates of one of its groups do. -/
theorem Condition.value_tree (c : Condition) :
    c.tree.value truth = c.groups.any fun group => group.all fun p => truth p.tree := by
  have hgrouped := c.isGrouped
  rw [tree, value_joined_or (by simpa using hgrouped.nonempty), List.any_map, Bool.eq_iff_iff,
    List.any_eq_true, List.any_eq_true]
  refine exists_congr fun group => and_congr_right fun hgroup => ?_
  rw [Function.comp_apply, value_joined_and (by simpa using hgrouped.group group hgroup), List.all_map]
  simp only [Function.comp_def, Predicate.value_tree]

/-- What holds as it was composed holds as it is read. -/
theorem Condition.value_of_composed {c : Condition} (h : c.composed.value truth = true) :
    c.tree.value truth = true := by
  induction c with
  | test p => exact h
  | both c p ih =>
    rw [composed, value_and, Bool.and_eq_true, p.value_tree] at h
    have hbefore := ih h.1
    obtain ⟨front, last, hgroups, -, hboth⟩ := c.groups_both p
    rw [value_tree, hgroups] at hbefore
    rw [value_tree, hboth]
    simp only [List.any_append, List.any_cons, List.any_nil, List.all_append, List.all_cons, List.all_nil,
      Bool.or_eq_true, Bool.or_false, Bool.and_true, h.2] at hbefore ⊢
    exact hbefore
  | either c p ih =>
    rw [composed, value_or, Bool.or_eq_true] at h
    rw [tree_either, value_or, Bool.or_eq_true]
    exact h.imp_left ih

end

/-! Definitions. -/

theorem VisualQuery.exists_select {q : VisualQuery} {text : String} (hq : q.IsPlain)
    (h : q.text = .ok text) : ∃ s, q.select = .ok s ∧ parseSql text = .ok [s.tree] := by
  obtain ⟨s, hs, rfl⟩ := map_eq_ok h
  have hparse := s.parseSql_text (q.select_isNamed hq.isNamed hs)
  rw [q.reread_select hq hs] at hparse
  exact ⟨s, hs, hparse⟩

/-- The text of a definition is read as one query, whose parts are those of the definition. -/
theorem VisualQuery.text_readBack {q : VisualQuery} {text : String} (hq : q.IsPlain)
    (h : q.text = .ok text) :
    ∃ s : Select, parseSql text = .ok [s.tree] ∧
      filled? q.database = some s.database ∧ filled? q.table = some s.table ∧
      projections q.fields = .ok s.projections ∧
      (if q.enableFilter then conditionOf none q.filters else .ok none) = .ok s.condition ∧
      (∀ c ∈ s.condition, c.keepsOrder = true → c.tree = c.composed) ∧
      s.group = (if q.enableGroup then q.groupBy.map ColumnRef.ofName else []) ∧
      s.order = q.order ∧ s.limit = q.limit.filter (· ≠ 0) := by
  obtain ⟨s, hs, hparse⟩ := q.exists_select hq h
  obtain ⟨hdatabase, htable, hitems, -, hcondition, hgroup, horder, hlimit⟩ := q.select_eq hs
  exact ⟨s, hparse, hdatabase, htable, hitems, hcondition, fun _ _ hc => Condition.tree_eq_composed hc,
    hgroup, horder, hlimit⟩

/-- A definition with a value that is full of marks. -/
def hostileDefinition : VisualQuery where
  database := some "sales"
  table := some "orders"
  fields := [⟨some "id", none, some "Order No"⟩, ⟨none, some "SUM", none⟩, ⟨some "*", some "count", none⟩]
  filters := [⟨some "status", some "not in", some "a'b; --, \\x", none⟩,
    ⟨some "note", some "=", some "*/ OR 1=1\n", some "OR"⟩]
  groupBy := ["id"]
  orderBy := some "id"
  orderDirection := some "desc"
  limit := some 5
  enableFilter := true
  enableGroup := true
  enableOrder := true

theorem hostileDefinition_isPlain : hostileDefinition.IsPlain where
  database := by decide +kernel
  table := by decide +kernel
  field := by decide +kernel
  filter := by decide +kernel
  group := by decide +kernel
  order := by decide +kernel

theorem VisualQuery.text_readBack_hostile : hostileDefinition.IsPlain ∧
    ∃ text, hostileDefinition.text = .ok text ∧ ∃ s : Select, parseSql text = .ok [s.tree] ∧
      s.database = "sales" ∧ s.order = some (.named "id", true) ∧ s.limit = some 5 := by
  have htext : hostileDefinition.text = .ok
      ("SELECT id AS \x60Order No\x60, COUNT(*) FROM sales.orders WHERE NOT status IN ('a\\'b; --', '\\\\x') "
        ++ "OR note = '*/ OR 1=1' GROUP BY id ORDER BY id DESC LIMIT 5") := by decide +kernel
  obtain ⟨s, hparse, hdatabase, -, -, -, -, -, horder, hlimit⟩ :=
    VisualQuery.text_readBack hostileDefinition_isPlain htext
  exact ⟨hostileDefinition_isPlain, _, htext, s, hparse, (Option.some.inj hdatabase).symm,
    by rw [horder]; decide +kernel, by rw [hlimit]; rfl⟩

/-- A definition with one filter. -/
def definitionWith (value : String) : VisualQuery where
  database := some "sales"
  table := some "orders"
  fields := [⟨some "id", none, none⟩]
  filters := [⟨some "status", some "=", some value, none⟩]
  groupBy := []
  orderBy := none
  orderDirection := none
  limit := none
  enableFilter := true
  enableGroup := false
  enableOrder := false

/-- A zero character before two digits is written as another character is. -/
theorem VisualQuery.text_shared : filterValue "\x0007".toList ≠ filterValue "\x07".toList ∧
    (definitionWith "\x0007").text = (definitionWith "\x07").text := by
  decide +kernel

/-- The condition that is read back, and when it holds: where a group of predicates joined by `AND` does. It
holds wherever the composed one does, and only there if no `AND` follows an `OR`. -/
theorem VisualQuery.condition_readBack {q : VisualQuery} {text : String} {c : Condition} (hq : q.IsPlain)
    (h : q.text = .ok text) (henabled : q.enableFilter = true)
    (hc : conditionOf none q.filters = .ok (some c)) :
    ∃ parts, parseSql text = .ok [.node .select "" parts] ∧ .node (.clause .filter) "" [c.tree] ∈ parts ∧
      ∀ truth : Tree → Bool,
        c.tree.value truth = (c.groups.any fun group => group.all fun p => truth p.tree) ∧
        (c.composed.value truth = true → c.tree.value truth = true) ∧
        (c.keepsOrder = true → c.tree.value truth = c.composed.value truth) := by
  obtain ⟨s, hs, hparse⟩ := q.exists_select hq h
  obtain ⟨-, -, -, -, hcondition, -⟩ := q.select_eq hs
  rw [if_pos henabled, hc] at hcondition
  have hsame : s.condition = some c := (Except.ok.inj hcondition).symm
  refine ⟨s.tree.parts, ?_, ?_, fun truth => ⟨c.value_tree, Condition.value_of_composed, fun hkeeps => ?_⟩⟩
  · rw [hparse, s.tree_eq]
    rfl
  · simp [Select.tree, Tree.parts, hsame]
  · rw [Condition.tree_eq_composed hkeeps]

/-- Filters of which one is joined by `AND` behind one joined by `OR`. -/
def mixedFilters : List FilterCondition :=
  [⟨some "a", some "=", some "1", none⟩, ⟨some "b", some "=", some "2", some "OR"⟩,
    ⟨some "c", some "=", some "3", some "AND"⟩]

def mixedCondition : Condition :=
  .both (.either (.test (.compare (.named "a") .equal "1")) (.compare (.named "b") .equal "2"))
    (.compare (.named "c") .equal "3")

theorem conditionOf_mixedFilters : conditionOf none mixedFilters = .ok (some mixedCondition) := by
  decide +kernel

theorem VisualQuery.condition_readBack_mixed :
    ∃ q : VisualQuery, q.IsPlain ∧ q.filters = mixedFilters ∧ ∃ parts,
      parseSql "SELECT id FROM sales.orders WHERE a = '1' OR b = '2' AND c = '3'" =
        .ok [.node .select "" parts] ∧ .node (.clause .filter) "" [mixedCondition.tree] ∈ parts := by
  have hplain : { definitionWith "" with filters := mixedFilters }.IsPlain :=
    ⟨by decide +kernel, by decide +kernel, by decide +kernel, by decide +kernel, by decide +kernel,
      by decide +kernel⟩
  have htext : { definitionWith "" with filters := mixedFilters }.text =
      .ok "SELECT id FROM sales.orders WHERE a = '1' OR b = '2' AND c = '3'" := by decide +kernel
  obtain ⟨parts, hparse, hpart, -⟩ :=
    VisualQuery.condition_readBack hplain htext rfl conditionOf_mixedFilters
  exact ⟨_, hplain, rfl, parts, hparse, hpart⟩

/-- Where an `AND` follows an `OR`, the condition that is read may hold though the composed one does not. -/
theorem Condition.composed_differs : ∃ truth, conditionOf none mixedFilters = .ok (some mixedCondition) ∧
    mixedCondition.composed.value truth = false ∧ mixedCondition.tree.value truth = true := by
  refine ⟨fun t => t.parts.any (·.text = "1"), conditionOf_mixedFilters, ?_, ?_⟩
  · simp only [mixedCondition, composed, value_and, value_or, Predicate.value_tree]
    decide +kernel
  · rw [value_tree]
    decide +kernel

end QueryGate
