import QueryGate.Proofs.Query.Filter
import QueryGate.Proofs.Query.ReadBack
/-! The names that stand in a tree and where each of them stands. Those in the tree of a query are the names of
the query, and these are the names that its definition gives. -/

namespace QueryGate

/-- Where a name stands: in which clause, and as part of what. -/
structure Place where
  clause : Option Clause
  owner : Kind
deriving DecidableEq, Repr

namespace Place

def field : Place :=
  ⟨some .projections, .column⟩

def output : Place :=
  ⟨some .projections, .aliased⟩

def source : Place :=
  ⟨some .source, .table⟩

def filter : Place :=
  ⟨some .filter, .column⟩

def group : Place :=
  ⟨some .group, .column⟩

def order : Place :=
  ⟨some .ordered, .column⟩

/-- The place of what is part of something that stands here. -/
def inside (place : Place) : Kind → Place
  | .clause c => ⟨some c, .clause c⟩
  | kind => ⟨place.clause, kind⟩

end Place

mutual
/-- The names in a tree that stands at a place, in reading order. -/
def Tree.namesAt (place : Place) : Tree → List (Place × String)
  | .node (.identifier _) text parts => (place, text) :: namesIn place parts
  | .node kind _ parts => namesIn (place.inside kind) parts

def namesIn (place : Place) : List Tree → List (Place × String)
  | [] => []
  | t :: ts => t.namesAt place ++ namesIn place ts
end

def Tree.names (t : Tree) : List (Place × String) :=
  t.namesAt ⟨none, .select⟩

/-! The names of a query. -/

def ColumnRef.names (place : Place) : ColumnRef → List (Place × String)
  | .star => []
  | .named name => [(place, name)]

def Projection.names (p : Projection) : List (Place × String) :=
  p.column.names .field ++ p.outputName.toList.map fun name => (.output, name)

def Select.names (s : Select) : List (Place × String) :=
  s.projections.flatMap (·.names) ++ [(.source, s.database), (.source, s.table)]
    ++ (predicatesOf s.condition).flatMap (·.column.names .filter)
    ++ s.group.flatMap (·.names .group)
    ++ s.order.toList.flatMap (·.1.names .order)

theorem namesIn_eq (place : Place) (ts : List Tree) : namesIn place ts = ts.flatMap (·.namesAt place) := by
  induction ts with
  | nil => rfl
  | cons t ts ih => rw [namesIn, ih, List.flatMap_cons]

section

variable {place : Place}

@[simp] theorem namesAt_nameTree (name : String) : (nameTree name).namesAt place = [(place, name)] := rfl

@[simp] theorem namesAt_stringTree (value : String) : (stringTree value).namesAt place = [] := rfl

@[simp] theorem ColumnRef.namesAt_tree (column : ColumnRef) :
    column.tree.namesAt place = column.names ⟨place.clause, .column⟩ := by
  cases column <;> rfl

theorem Projection.namesAt_valueTree (p : Projection) : p.valueTree.namesAt place =
    p.column.names ⟨place.clause, .column⟩ := by
  obtain ⟨column, aggregation, outputName⟩ := p
  cases aggregation with
  | none => exact column.namesAt_tree
  | some a =>
    change column.tree.namesAt (place.inside _) ++ [] = _
    rw [List.append_nil]
    exact column.namesAt_tree

theorem Projection.namesAt_tree (p : Projection) {owner : Kind} :
    p.tree.namesAt ⟨some .projections, owner⟩ = p.names := by
  unfold Projection.tree Projection.names
  cases p.outputName with
  | none =>
    rw [p.namesAt_valueTree]
    exact (List.append_nil _).symm
  | some name =>
    change p.valueTree.namesAt .output ++ [(Place.output, name)] = _
    rw [p.namesAt_valueTree]
    rfl

/-- Whatever a value holds, no name stands in it. -/
theorem namesIn_tested (column : ColumnRef) (values : List String) :
    namesIn place (column.tree :: values.map stringTree) = column.names ⟨place.clause, .column⟩ := by
  have hvalues : (values.map stringTree).flatMap (·.namesAt place) = [] := by
    rw [List.flatMap_map]
    exact List.flatMap_eq_nil_iff.mpr fun value _ => namesAt_stringTree value
  rw [namesIn, namesIn_eq, hvalues, List.append_nil, column.namesAt_tree]

theorem Predicate.namesAt_tree (p : Predicate) :
    p.tree.namesAt place = p.column.names ⟨place.clause, .column⟩ := by
  induction p generalizing place with
  | compare column how value => exact namesIn_tested column [value]
  | fits column how value => cases how <;> exact namesIn_tested column [value]
  | isNull column =>
    change column.tree.namesAt _ ++ [] = _
    rw [List.append_nil]
    exact column.namesAt_tree
  | oneOf column values => exact namesIn_tested column values
  | between column low high => exact namesIn_tested column [low, high]
  | negated p ih =>
    change p.tree.namesAt _ ++ [] = _
    rw [List.append_nil]
    exact ih

theorem namesAt_foldl {α : Type} {key : String} {tree : α → Tree} {names : α → List (Place × String)} {xs : List α}
    {clause : Option Clause} (h : ∀ x ∈ xs, ∀ owner, (tree x).namesAt ⟨clause, owner⟩ = names x) {left : Tree}
    {before : List (Place × String)} (hleft : ∀ owner, left.namesAt ⟨clause, owner⟩ = before) (owner : Kind) :
    ((xs.map tree).foldl (fun left right => .node (.op key) "" [left, right]) left).namesAt ⟨clause, owner⟩ =
      before ++ xs.flatMap names := by
  induction xs generalizing left before with
  | nil => rw [List.flatMap_nil, List.append_nil, List.map_nil, List.foldl_nil, hleft]
  | cons x xs ih =>
    obtain ⟨hx, hxs⟩ := List.forall_mem_cons.mp h
    rw [List.map_cons, List.foldl_cons, List.flatMap_cons, ← List.append_assoc]
    refine ih hxs fun owner => ?_
    change left.namesAt _ ++ ((tree x).namesAt _ ++ []) = _
    rw [List.append_nil]
    exact congrArg₂ (· ++ ·) (hleft _) (hx _)

theorem namesAt_joinedTree {α : Type} {key : String} {tree : α → Tree} {names : α → List (Place × String)}
    {xs : List α} (h : ∀ x ∈ xs, ∀ owner, (tree x).namesAt ⟨place.clause, owner⟩ = names x) :
    (joinedTree key (xs.map tree)).namesAt place = xs.flatMap names := by
  cases xs with
  | nil => rfl
  | cons x xs =>
    obtain ⟨hx, hxs⟩ := List.forall_mem_cons.mp h
    exact namesAt_foldl hxs hx place.owner

theorem Condition.namesAt_tree (c : Condition) :
    c.tree.namesAt place = c.predicates.flatMap (·.column.names ⟨place.clause, .column⟩) := by
  have hgroup : ∀ group ∈ c.groups, ∀ owner, (joinedTree "AND" (group.map (·.tree))).namesAt ⟨place.clause, owner⟩ =
      group.flatMap (·.column.names ⟨place.clause, .column⟩) := fun group _ owner =>
    namesAt_joinedTree fun p _ owner => p.namesAt_tree
  rw [Condition.tree, namesAt_joinedTree hgroup, ← c.isGrouped.predicates, List.flatten_eq_flatMap,
    List.flatMap_assoc]
  rfl

end

theorem namesIn_append (place : Place) (ts us : List Tree) :
    namesIn place (ts ++ us) = namesIn place ts ++ namesIn place us := by
  rw [namesIn_eq, namesIn_eq, namesIn_eq, List.flatMap_append]

theorem namesIn_map {α : Type} {place : Place} {tree : α → Tree} {names : α → List (Place × String)}
    (h : ∀ x, (tree x).namesAt place = names x) (xs : List α) :
    namesIn place (xs.map tree) = xs.flatMap names := by
  rw [namesIn_eq, List.flatMap_map]
  exact congrArg xs.flatMap (funext h)

theorem Select.namesIn_clauses (s : Select) : namesIn ⟨none, .select⟩ (s.clauses.map (·.tree)) =
    (predicatesOf s.condition).flatMap (·.column.names .filter) ++ s.group.flatMap (·.names .group) ++
      s.order.toList.flatMap (·.1.names .order) := by
  have hclause : ∀ place c parts, namesIn place [.node (.clause c) "" parts] = namesIn ⟨some c, .clause c⟩ parts :=
    fun place c parts => List.append_nil _
  unfold Select.clauses
  simp only [List.map_append, namesIn_append]
  refine (congrArg₂ (· ++ ·) (congrArg₂ (· ++ ·) (congrArg₂ (· ++ ·) ?_ ?_) ?_) ?_).trans (List.append_nil _)
  · cases s.condition with
    | none => rfl
    | some c =>
      refine (hclause _ _ _).trans ((List.append_nil _).trans ?_)
      exact c.namesAt_tree
  · by_cases hempty : s.group.isEmpty = true
    · rw [if_pos hempty, List.isEmpty_iff.mp hempty]
      rfl
    · rw [if_neg hempty]
      refine (hclause _ _ _).trans ?_
      exact namesIn_map (fun column => column.namesAt_tree) s.group
  · cases s.order with
    | none => rfl
    | some o =>
      have hcolumn : o.1.tree.namesAt ⟨some .ordered, .clause .ordered⟩ = o.1.names .order := o.1.namesAt_tree
      change (o.1.tree.namesAt ⟨some .ordered, .clause .ordered⟩ ++ [] ++ []) ++ [] = o.1.names .order ++ []
      simp only [hcolumn, List.append_nil]
  · cases s.limit <;> rfl

/-- The names in the tree of a query are its names. -/
theorem Select.names_tree (s : Select) : s.tree.names = s.names := by
  have hhead : namesIn ⟨none, .select⟩ (s.headTrees [s.database, s.table]) =
      s.projections.flatMap (·.names) ++ [(.source, s.database), (.source, s.table)] := by
    refine congrArg₂ (· ++ ·) ?_ rfl
    exact namesIn_map (fun p => p.namesAt_tree) s.projections
  rw [s.tree_eq]
  change namesIn ⟨none, .select⟩ _ = _
  rw [namesIn_append, hhead, s.namesIn_clauses, Select.names]
  simp only [List.append_assoc]

/-! The names of a definition. -/

def FieldSelection.names (f : FieldSelection) : List (Place × String) :=
  match filled? f.column with
  | none => []
  | some column =>
    (ColumnRef.ofName column).names .field ++
      if column = "*" ∧ filled? f.aggregation = none then []
      else (filled? f.outputName).toList.map fun name => (.output, name)

def FilterCondition.names (f : FilterCondition) : List (Place × String) :=
  match filled? f.column, filled? f.operator with
  | some column, some _ => (ColumnRef.ofName column).names .filter
  | _, _ => []

/-- The names that a definition gives, as far as they become part of its text. -/
def VisualQuery.names (q : VisualQuery) : List (Place × String) :=
  q.fields.flatMap (·.names)
    ++ ((filled? q.database).toList ++ (filled? q.table).toList).map (fun name => (.source, name))
    ++ (if q.enableFilter then q.filters.flatMap (·.names) else [])
    ++ (if q.enableGroup then q.groupBy.flatMap fun name => (ColumnRef.ofName name).names .group else [])
    ++ (if q.enableOrder then
      (filled? q.orderBy).toList.flatMap fun name => (ColumnRef.ofName name).names .order else [])

theorem FieldSelection.names_projection {f : FieldSelection} {column : String} {p : Projection}
    (hcolumn : filled? f.column = some column) (h : f.projection column = .ok p) : p.names = f.names := by
  unfold FieldSelection.projection at h
  simp only [FieldSelection.names, hcolumn]
  split at h
  · rename_i text haggregation
    split at h
    · cases h
      simp [Projection.names, haggregation]
    · exact absurd h (by simp [invalidPayload])
  · rename_i haggregation
    split at h
    · rename_i hstar
      cases h
      simp [Projection.names, haggregation, hstar, ColumnRef.ofName, ColumnRef.names]
    · rename_i hstar
      cases h
      simp [Projection.names, hstar, ColumnRef.ofName]

theorem names_projections {fields : List FieldSelection} {items : List Projection}
    (h : projections fields = .ok items) : items.flatMap (·.names) = fields.flatMap (·.names) := by
  induction fields generalizing items with
  | nil =>
    obtain rfl := Except.ok.inj h
    rfl
  | cons f rest ih =>
    unfold projections at h
    split at h
    · rename_i hnone
      have hnothing : f.names = [] := by simp [FieldSelection.names, hnone]
      rw [List.flatMap_cons, hnothing, List.nil_append]
      exact ih h
    · rename_i column hcolumn
      obtain ⟨p, hp, h⟩ := bind_eq_ok h
      obtain ⟨others, hothers, h⟩ := bind_eq_ok h
      obtain rfl := Except.ok.inj h
      rw [List.flatMap_cons, List.flatMap_cons, f.names_projection hcolumn hp, ih hothers]

theorem names_conditionOf {filters : List FilterCondition} {before after : Option Condition}
    (h : conditionOf before filters = .ok after) :
    (predicatesOf after).flatMap (·.column.names .filter) =
      (predicatesOf before).flatMap (·.column.names .filter) ++ filters.flatMap (·.names) := by
  induction filters generalizing before with
  | nil =>
    obtain rfl := Except.ok.inj h
    rw [List.flatMap_nil, List.append_nil]
  | cons f rest ih =>
    unfold conditionOf at h
    split at h
    · rename_i column operator hcolumn hoperator
      obtain ⟨p, hp, hjoined⟩ := bind_eq_ok h
      have hnames : f.names = p.column.names .filter := by
        simp only [FilterCondition.names, hcolumn, hoperator, (f.predicate_isFrom hp).column_eq]
      rw [ih hjoined, predicatesOf, f.predicates_join, List.flatMap_append, List.flatMap_singleton, List.append_assoc,
        List.flatMap_cons, hnames]
    · rename_i hmissing
      have hnothing : f.names = [] := by
        unfold FilterCondition.names
        split
        · exact absurd ‹_› (hmissing _ _ ‹_›)
        · rfl
      rw [ih h, List.flatMap_cons, hnothing, List.nil_append]

/-- The query of a definition, part by part. -/
theorem VisualQuery.select_eq {q : VisualQuery} {s : Select} (h : q.select = .ok s) :
    filled? q.database = some s.database ∧ filled? q.table = some s.table ∧
      projections q.fields = .ok s.projections ∧ s.projections ≠ [] ∧
      (if q.enableFilter then conditionOf none q.filters else .ok none) = .ok s.condition ∧
      s.group = (if q.enableGroup then q.groupBy.map ColumnRef.ofName else []) ∧
      s.order = q.order ∧ s.limit = q.limit.filter (· ≠ 0) := by
  unfold VisualQuery.select at h
  split at h
  · rename_i database table hdatabase htable
    obtain ⟨items, hitems, h⟩ := bind_eq_ok h
    split at h
    · exact absurd h (by simp [invalidPayload])
    · rename_i hne
      have hne : items ≠ [] := by simpa using hne
      by_cases henabled : q.enableFilter = true
      · simp only [henabled, if_true] at h ⊢
        obtain ⟨condition, hcondition, h⟩ := bind_eq_ok h
        obtain rfl := Except.ok.inj h
        exact ⟨hdatabase, htable, hitems, hne, hcondition, rfl, rfl, rfl⟩
      · simp only [henabled] at h ⊢
        obtain ⟨condition, hcondition, h⟩ := bind_eq_ok h
        obtain rfl := Except.ok.inj h
        exact ⟨hdatabase, htable, hitems, hne, hcondition, rfl, rfl, rfl⟩
  · exact absurd h (by simp [invalidPayload])

/-- The query of a definition has the names that the definition gives. -/
theorem VisualQuery.names_select {q : VisualQuery} {s : Select} (h : q.select = .ok s) : s.names = q.names := by
  obtain ⟨hdatabase, htable, hitems, -, hcondition, hgroup, horder, -⟩ := q.select_eq h
  have hfilter : (predicatesOf s.condition).flatMap (·.column.names .filter) =
      if q.enableFilter then q.filters.flatMap (·.names) else [] := by
    by_cases henabled : q.enableFilter = true
    · rw [if_pos henabled] at hcondition ⊢
      exact names_conditionOf hcondition
    · rw [if_neg henabled] at hcondition ⊢
      rw [← Except.ok.inj hcondition]
      rfl
  have hgrouped : s.group.flatMap (·.names .group) =
      if q.enableGroup then q.groupBy.flatMap fun name => (ColumnRef.ofName name).names .group else [] := by
    rw [hgroup]
    by_cases henabled : q.enableGroup = true
    · rw [if_pos henabled, if_pos henabled, List.flatMap_map]
    · rw [if_neg henabled, if_neg henabled, List.flatMap_nil]
  have hordered : s.order.toList.flatMap (·.1.names .order) =
      if q.enableOrder then (filled? q.orderBy).toList.flatMap fun name => (ColumnRef.ofName name).names .order
      else [] := by
    rw [horder, VisualQuery.order]
    by_cases henabled : q.enableOrder = true
    · rw [if_pos henabled, if_pos henabled]
      cases filled? q.orderBy <;> rfl
    · rw [if_neg henabled, if_neg henabled]
      rfl
  rw [Select.names, VisualQuery.names, names_projections hitems, hdatabase, htable, hfilter, hgrouped, hordered]
  rfl

end QueryGate
