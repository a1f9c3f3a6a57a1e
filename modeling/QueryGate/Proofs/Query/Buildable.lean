import QueryGate.Proofs.Query.Marks
import QueryGate.Proofs.Session
/-! Which definitions become a query. Each part is either taken or refused as an invalid payload, and what
decides is a condition on that part alone, so the whole is decided by the conditions of its parts. A part
that is switched off has none. -/

namespace QueryGate

/-! Outcomes that a condition decides. -/

/-- There is a result if the condition holds, and an invalid payload if it does not. -/
inductive Decides {α : Type} (P : Prop) : Except Failure α → Prop
  | accepts (h : P) (a : α) : Decides P (.ok a)
  | refuses (h : ¬ P) (message : String) : Decides P (invalidPayload message)

section

variable {α β : Type} {P Q : Prop}

theorem Decides.congr {x : Except Failure α} (h : Decides P x) (hPQ : P ↔ Q) : Decides Q x := by
  cases h with
  | accepts h a => exact .accepts (hPQ.mp h) a
  | refuses h message => exact .refuses (hPQ.not.mp h) message

theorem Decides.map {x : Except Failure α} (h : Decides P x) (f : α → β) : Decides P (x.map f) := by
  cases h with
  | accepts h a => exact .accepts h (f a)
  | refuses h message => exact .refuses h message

theorem Decides.bind {x : Except Failure α} {f : α → Except Failure β} (h : Decides P x)
    (hf : ∀ a, x = .ok a → Decides Q (f a)) : Decides (P ∧ Q) (x >>= f) := by
  cases h with
  | accepts h a => exact (hf a rfl).congr (and_iff_right h).symm
  | refuses h message => exact .refuses (fun hboth => h hboth.1) message

theorem Decides.exists_ok_iff {x : Except Failure α} (h : Decides P x) : (∃ a, x = .ok a) ↔ P := by
  cases h with
  | accepts h a => exact ⟨fun _ => h, fun _ => ⟨a, rfl⟩⟩
  | refuses h message => exact ⟨fun hok => (nomatch hok), fun hP => absurd hP h⟩

theorem Decides.kind {x : Except Failure α} (h : Decides P x) {e : Failure} (he : x = .error e) :
    e.kind = .invalidPayload := by
  cases h with
  | accepts h a => cases he
  | refuses h message =>
    cases he
    rfl

end

/-! Fields. -/

def FieldSelection.IsBuildable (f : FieldSelection) : Prop :=
  ∀ _column ∈ filled? f.column, ∀ text ∈ filled? f.aggregation,
    toUpperText text ∈ ["COUNT", "SUM", "AVG", "MIN", "MAX"]

theorem Aggregation.isSome_ofText?_iff {text : String} :
    (Aggregation.ofText? text).isSome = true ↔ toUpperText text ∈ ["COUNT", "SUM", "AVG", "MIN", "MAX"] := by
  have hlabels : ["COUNT", "SUM", "AVG", "MIN", "MAX"] = Aggregation.all.map (·.label) := by decide
  rw [Aggregation.ofText?, List.find?_isSome, hlabels, List.mem_map]
  simp only [decide_eq_true_eq]

theorem FieldSelection.projection_decides {f : FieldSelection} {column : String}
    (hcolumn : filled? f.column = some column) : Decides f.IsBuildable (f.projection column) := by
  have hbuildable : f.IsBuildable ↔ ∀ text ∈ filled? f.aggregation,
      toUpperText text ∈ ["COUNT", "SUM", "AVG", "MIN", "MAX"] := by
    simp [FieldSelection.IsBuildable, hcolumn]
  rw [hbuildable]
  unfold FieldSelection.projection
  cases haggregation : filled? f.aggregation with
  | none =>
    by_cases hstar : column = "*"
    · simp only [hstar, if_true]
      exact .accepts (by simp) _
    · simp only [hstar, if_false]
      exact .accepts (by simp) _
  | some text =>
    have hknown : (Aggregation.ofText? text).isSome = true ↔ _ := Aggregation.isSome_ofText?_iff
    dsimp only
    cases hlookup : Aggregation.ofText? text with
    | none =>
      rw [hlookup] at hknown
      exact .refuses (fun h => Bool.false_ne_true (hknown.mpr (h text rfl))) _
    | some a =>
      rw [hlookup] at hknown
      refine .accepts (fun other hother => ?_) _
      rw [Option.mem_some] at hother
      exact hother ▸ hknown.mp rfl

theorem projections_decides (fields : List FieldSelection) :
    Decides (∀ f ∈ fields, f.IsBuildable) (projections fields) := by
  induction fields with
  | nil => exact .accepts (by simp) _
  | cons f rest ih =>
    rw [List.forall_mem_cons]
    unfold projections
    cases hcolumn : filled? f.column with
    | none =>
      have hnothing : f.IsBuildable := by simp [FieldSelection.IsBuildable, hcolumn]
      exact ih.congr (and_iff_right hnothing).symm
    | some column =>
      exact (f.projection_decides hcolumn).bind fun p _ => ih.map (p :: ·)

/-- Each field that names a column takes part, unless one of them is refused. -/
theorem projections_ne_nil_iff {fields : List FieldSelection} {items : List Projection}
    (h : projections fields = .ok items) :
    items ≠ [] ↔ ∃ f ∈ fields, (filled? f.column).isSome = true := by
  induction fields generalizing items with
  | nil =>
    obtain rfl := Except.ok.inj h
    simp
  | cons f rest ih =>
    unfold projections at h
    cases hcolumn : filled? f.column with
    | none =>
      rw [hcolumn] at h
      simp [ih h, hcolumn]
    | some column =>
      rw [hcolumn] at h
      obtain ⟨p, -, h⟩ := bind_eq_ok h
      obtain ⟨others, -, h⟩ := bind_eq_ok h
      obtain rfl := Except.ok.inj h
      simp [hcolumn]

/-! Operators. -/

/-- An item between commas that is not blank. -/
def HasItem (value : String) : Prop :=
  ∃ item ∈ value.toList.splitOn ',', ∃ c ∈ item, isBlank c = false

/-- An operator in capitals, with no `NOT` before it, that makes a predicate with the value. -/
inductive Operates (value : String) : String → Prop
  | comparison {op : String} (h : op ∈ ["=", "!=", "<>", ">", "<", ">=", "<="]) : Operates value op
  | pattern {op : String} (h : op ∈ ["LIKE", "ILIKE", "RLIKE", "REGEXP"]) : Operates value op
  | missing : Operates value "IS NULL"
  | present : Operates value "IS NOT NULL"
  | list (h : HasItem value) : Operates value "IN"
  | range (h : HasOneMark value.toList) : Operates value "BETWEEN"

/-- One that may have a `NOT` before it, and two of them before `IN`. -/
inductive Suits (value : String) : String → Prop
  | plain {op : String} (h : Operates value op) : Suits value op
  | negated {op : String} (h : Operates value op) : Suits value ("NOT " ++ op)
  | twice (h : HasItem value) : Suits value "NOT NOT IN"

theorem splitAtCommas_eq (cs : List Char) : splitAtCommas cs = cs.splitOn ',' := by
  induction cs with
  | nil => rfl
  | cons c cs ih =>
    rw [splitAtCommas, List.splitOn_cons_eq_if_modifyHead, ih]
    by_cases hc : c = ','
    · simp [hc]
    · cases hsplit : cs.splitOn ',' with
      | nil => exact absurd hsplit (List.splitOn_ne_nil _ _)
      | cons item items => simp [hc]

theorem listValues_ne_nil_iff {value : String} : (listValues value).isEmpty = false ↔ HasItem value := by
  rw [listValues, splitAtCommas_eq, HasItem]
  simp

theorem isSome_rangeValues_iff {value : String} :
    (rangeValues value).isSome = true ↔ HasOneMark value.toList := by
  rw [← countMarks_eq_one_iff, rangeValues]
  dsimp only
  by_cases hone : countMarks 0 (upperChars value.toList) = 1
  · simp [hone]
  · simp [hone]

theorem Comparison.isSome_ofText?_iff {op : String} :
    (Comparison.ofText? op).isSome = true ↔ op ∈ ["=", "!=", "<>", ">", "<", ">=", "<="] := by
  unfold Comparison.ofText?
  split <;> simp_all

theorem Pattern.isSome_ofText?_iff {op : String} :
    (Pattern.ofText? op).isSome = true ↔ op ∈ ["LIKE", "ILIKE", "RLIKE", "REGEXP"] := by
  unfold Pattern.ofText?
  split <;> simp_all

theorem operates_iff {value op : String} :
    Operates value op ↔ (Comparison.ofText? op).isSome = true ∨ (Pattern.ofText? op).isSome = true ∨
      op = "IS NULL" ∨ op = "IS NOT NULL" ∨ op = "IN" ∧ HasItem value ∨
      op = "BETWEEN" ∧ HasOneMark value.toList := by
  rw [Comparison.isSome_ofText?_iff, Pattern.isSome_ofText?_iff]
  constructor
  · intro h
    cases h with
    | comparison h => exact Or.inl h
    | pattern h => exact Or.inr (Or.inl h)
    | missing => simp
    | present => simp
    | list h => simp [h]
    | range h => simp [h]
  · rintro (h | h | rfl | rfl | ⟨rfl, h⟩ | ⟨rfl, h⟩)
    · exact .comparison h
    · exact .pattern h
    · exact .missing
    · exact .present
    · exact .list h
    · exact .range h

theorem plainPredicate_decides (column op written value : String) :
    Decides (Operates value op ∨ op = "NOT IN" ∧ HasItem value) (plainPredicate column op written value) := by
  rw [operates_iff]
  unfold plainPredicate
  cases hcompare : Comparison.ofText? op with
  | some how => exact .accepts (by simp) _
  | none =>
    cases hpattern : Pattern.ofText? op with
    | some how => exact .accepts (by simp) _
    | none =>
      dsimp only
      by_cases hmissing : op = "IS NULL"
      · rw [if_pos hmissing]
        exact .accepts (by simp [hmissing]) _
      rw [if_neg hmissing]
      by_cases hpresent : op = "IS NOT NULL"
      · rw [if_pos hpresent]
        exact .accepts (by simp [hpresent]) _
      rw [if_neg hpresent]
      by_cases hlist : op = "IN" ∨ op = "NOT IN"
      · rw [if_pos hlist]
        have hitems : (listValues value).isEmpty = false ↔ HasItem value := listValues_ne_nil_iff
        by_cases hempty : (listValues value).isEmpty = true
        · rw [if_pos hempty]
          have hnone : ¬ HasItem value := fun h => Bool.false_ne_true ((hitems.mpr h).symm.trans hempty)
          refine .refuses ?_ _
          rcases hlist with rfl | rfl <;> simp [hnone]
        · have hsome := hitems.mp (Bool.not_eq_true _ ▸ hempty)
          rw [if_neg hempty]
          by_cases hin : op = "IN"
          · rw [if_pos hin]
            exact .accepts (by simp [hin, hsome]) _
          · rw [if_neg hin]
            exact .accepts (by simp [hlist.resolve_left hin, hsome]) _
      · rw [if_neg hlist]
        obtain ⟨hin, hnotIn⟩ := not_or.mp hlist
        by_cases hbetween : op = "BETWEEN"
        · rw [if_pos hbetween]
          have hends : (rangeValues value).isSome = true ↔ _ := isSome_rangeValues_iff
          cases hrange : rangeValues value with
          | some ends =>
            rw [hrange] at hends
            exact .accepts (by simp [hbetween, hends.mp rfl]) _
          | none =>
            rw [hrange] at hends
            have hnone : ¬ HasOneMark value.toList := fun h => Bool.false_ne_true (hends.mpr h)
            exact .refuses (by simp [hbetween, hnone]) _
        · rw [if_neg hbetween]
          exact .refuses (by simp [hmissing, hpresent, hin, hnotIn, hbetween]) _

/-- No operator begins with a `NOT` of its own. -/
theorem Operates.not_prefix {value op : String} (h : Operates value op) :
    notMark.isPrefixOf op.toList = false := by
  have hcomparisons : ∀ op ∈ ["=", "!=", "<>", ">", "<", ">=", "<="], notMark.isPrefixOf op.toList = false :=
    forall_mem_of_all (by decide)
  have hpatterns : ∀ op ∈ ["LIKE", "ILIKE", "RLIKE", "REGEXP"], notMark.isPrefixOf op.toList = false :=
    forall_mem_of_all (by decide)
  cases h with
  | comparison h => exact hcomparisons op h
  | pattern h => exact hpatterns op h
  | missing => decide
  | present => decide
  | list h => decide
  | range h => decide

theorem not_prefix_iff {op : String} :
    notMark.isPrefixOf op.toList = true ↔ ∃ rest, op = "NOT " ++ rest := by
  rw [List.isPrefixOf_iff_prefix]
  constructor
  · rintro ⟨rest, hrest⟩
    refine ⟨String.ofList rest, String.toList_inj.mp ?_⟩
    rw [String.toList_append]
    exact hrest.symm.trans (congrArg (notMark ++ ·) String.toList_ofList.symm)
  · rintro ⟨rest, rfl⟩
    rw [String.toList_append]
    exact List.prefix_append _ _

theorem suits_not_iff {value rest : String} (hrest : rest ≠ "IN") :
    Suits value ("NOT " ++ rest) ↔ Operates value rest ∨ rest = "NOT IN" ∧ HasItem value := by
  constructor
  · generalize hop : "NOT " ++ rest = op
    intro h
    cases h with
    | plain h =>
      have hstarts := not_prefix_iff.mpr ⟨rest, hop.symm⟩
      exact absurd (h.not_prefix.symm.trans hstarts) Bool.false_ne_true
    | negated h =>
      obtain rfl := (String.append_right_inj _).mp hop
      exact Or.inl h
    | twice h =>
      have htwice : "NOT " ++ rest = "NOT " ++ "NOT IN" := hop
      exact Or.inr ⟨(String.append_right_inj _).mp htwice, h⟩
  · rintro (h | ⟨rfl, h⟩)
    · exact .negated h
    · exact .twice h

theorem suits_plain_iff {value op : String} (hop : notMark.isPrefixOf op.toList = true → op = "NOT IN") :
    Suits value op ↔ Operates value op ∨ op = "NOT IN" ∧ HasItem value := by
  constructor
  · intro h
    cases h with
    | plain h => exact Or.inl h
    | @negated inner h =>
      have hwhole : "NOT " ++ inner = "NOT " ++ "IN" := hop (not_prefix_iff.mpr ⟨inner, rfl⟩)
      obtain rfl := (String.append_right_inj _).mp hwhole
      have hitem : HasItem value := by
        simpa [Comparison.ofText?, Pattern.ofText?] using operates_iff.mp h
      exact Or.inr ⟨rfl, hitem⟩
    | twice h => exact absurd (hop (by decide)) (by decide)
  · rintro (h | ⟨rfl, h⟩)
    · exact .plain h
    · exact show Suits value ("NOT " ++ "IN") from .negated (.list h)

theorem FilterCondition.predicate_decides (column operator : String) (f : FilterCondition) :
    Decides (Suits (f.value.getD "") (singleSpaced (toUpperText operator))) (f.predicate column operator) := by
  unfold FilterCondition.predicate
  dsimp only
  generalize singleSpaced (toUpperText operator) = op
  by_cases hnot : notMark.isPrefixOf op.toList = true ∧ op ≠ "NOT IN"
  · rw [if_pos hnot]
    obtain ⟨hstarts, hne⟩ := hnot
    obtain ⟨rest, rfl⟩ := not_prefix_iff.mp hstarts
    have hdrop : String.ofList (("NOT " ++ rest).toList.drop notMark.length) = rest := by
      rw [String.toList_append]
      exact String.ofList_toList
    rw [hdrop]
    have hrest : rest ≠ "IN" := fun h => hne (congrArg ("NOT " ++ ·) h)
    exact ((plainPredicate_decides column rest operator _).map _).congr (suits_not_iff hrest).symm
  · rw [if_neg hnot]
    have hplain : notMark.isPrefixOf op.toList = true → op = "NOT IN" := fun hstarts =>
      Decidable.byContradiction fun hne => hnot ⟨hstarts, hne⟩
    exact (plainPredicate_decides column op operator _).congr (suits_plain_iff hplain).symm

/-! Filters. -/

/-- A filter that has both a column and an operator has one that suits its value. -/
def FilterCondition.IsBuildable (f : FilterCondition) : Prop :=
  ∀ _column ∈ filled? f.column, ∀ operator ∈ filled? f.operator,
    Suits (f.value.getD "") (singleSpaced (toUpperText operator))

theorem conditionOf_decides (before : Option Condition) (filters : List FilterCondition) :
    Decides (∀ f ∈ filters, f.IsBuildable) (conditionOf before filters) := by
  induction filters generalizing before with
  | nil => exact .accepts (by simp) _
  | cons f rest ih =>
    rw [List.forall_mem_cons]
    unfold conditionOf
    cases hcolumn : filled? f.column with
    | none =>
      have hnothing : f.IsBuildable := by simp [FilterCondition.IsBuildable, hcolumn]
      exact (ih before).congr (and_iff_right hnothing).symm
    | some column =>
      cases hoperator : filled? f.operator with
      | none =>
        have hnothing : f.IsBuildable := by simp [FilterCondition.IsBuildable, hoperator]
        exact (ih before).congr (and_iff_right hnothing).symm
      | some operator =>
        have hbuildable : Suits (f.value.getD "") (singleSpaced (toUpperText operator)) ↔ f.IsBuildable := by
          simp [FilterCondition.IsBuildable, hcolumn, hoperator]
        exact ((f.predicate_decides column operator).congr hbuildable).bind fun p _ => ih _

/-! Definitions. -/

structure VisualQuery.IsBuildable (q : VisualQuery) : Prop where
  database : (filled? q.database).isSome = true
  table : (filled? q.table).isSome = true
  column : ∃ f ∈ q.fields, (filled? f.column).isSome = true
  field : ∀ f ∈ q.fields, f.IsBuildable
  filter : q.enableFilter = true → ∀ f ∈ q.filters, f.IsBuildable

theorem VisualQuery.select_decides (q : VisualQuery) : Decides q.IsBuildable q.select := by
  unfold VisualQuery.select
  cases hdatabase : filled? q.database with
  | none =>
    refine .refuses (fun h => ?_) _
    have hsome := h.database
    rw [hdatabase] at hsome
    cases hsome
  | some database =>
    cases htable : filled? q.table with
    | none =>
      refine .refuses (fun h => ?_) _
      have hsome := h.table
      rw [htable] at hsome
      cases hsome
    | some table =>
      have hparts : (∀ f ∈ q.fields, f.IsBuildable) ∧ (∃ f ∈ q.fields, (filled? f.column).isSome = true) ∧
          (q.enableFilter = true → ∀ f ∈ q.filters, f.IsBuildable) ↔ q.IsBuildable :=
        ⟨fun h => ⟨by simp [hdatabase], by simp [htable], h.2.1, h.1, h.2.2⟩,
          fun h => ⟨h.field, h.column, h.filter⟩⟩
      refine ((projections_decides q.fields).bind fun items hitems => ?_).congr hparts
      have hsome := projections_ne_nil_iff hitems
      by_cases hempty : items.isEmpty = true
      · rw [if_pos hempty]
        exact .refuses (fun h => hsome.mpr h.1 (List.isEmpty_iff.mp hempty)) _
      · rw [if_neg hempty]
        have hcolumn := hsome.mp fun h => hempty (List.isEmpty_iff.mpr h)
        by_cases henabled : q.enableFilter = true
        · simp only [henabled, if_true, forall_const, hcolumn, true_and]
          exact (conditionOf_decides none q.filters).map _
        · simp only [henabled, hcolumn, true_and]
          exact .accepts (fun h => nomatch h) _

theorem VisualQuery.text_decides (q : VisualQuery) : Decides q.IsBuildable q.text :=
  q.select_decides.map _

end QueryGate
