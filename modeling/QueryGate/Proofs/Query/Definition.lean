import QueryGate.Proofs.Query.Names
/-! Definitions whose names stand for themselves become queries whose names do, and if their values do too, so do
those of the query. -/

namespace QueryGate

open Grammar

/-! Values. -/

theorem hasOctalTail_append {cs : List Char} (h : hasOctalTail cs = true) (more : List Char) :
    hasOctalTail (cs ++ more) = true := by
  fun_induction hasOctalTail cs with
  | case1 a b cs ih =>
    rw [Bool.or_eq_true] at h
    rcases h with h | h
    · simp [hasOctalTail, h]
    · simpa [hasOctalTail] using .inr (ih h)
  | case2 c cs hno ih =>
    have htail := ih h
    rw [← Bool.not_eq_false]
    intro hfalse
    exact absurd (hasOctalTail_tail hfalse) (by simp [htail])
  | case3 => exact absurd h (by simp)

theorem hasOctalTail_of_isInfix {cs ds : List Char} (hpart : cs <:+: ds) (h : hasOctalTail ds = false) :
    hasOctalTail cs = false := by
  obtain ⟨before, after, rfl⟩ := hpart
  induction before with
  | nil =>
    rw [← Bool.not_eq_true]
    intro hcs
    exact absurd (hasOctalTail_append hcs after) (by simpa using h)
  | cons c before ih => exact ih (hasOctalTail_tail h)

/-- A value that its literal is read as. -/
def isPlainValue (value : String) : Bool :=
  !hasOctalTail value.toList

/-- A value out of a text that is plain. -/
theorem isPlainValue_part {part : List Char} {value : String} (hvalue : isPlainValue value = true)
    (hpart : part <:+: value.toList) : isPlainValue (filterValue part) = true := by
  simp only [isPlainValue, Bool.not_eq_true'] at hvalue ⊢
  exact hasOctalTail_of_isInfix ((filterValue_isInfix part).trans hpart) hvalue

theorem rereadValue_eq_self {value : String} (h : isPlainValue value = true) : rereadValue value = value := by
  rw [isPlainValue, Bool.not_eq_true'] at h
  rw [rereadValue, rereadChars_eq_self h, String.ofList_toList]

/-! Names. -/

/-- A name that is in backticks, or that the dialect reads as nothing but a name. -/
def isPlainName (name : String) : Bool :=
  toUpperText name ≠ "VALUES" && (!isBareName name.toList ||
    (name.toList.all isWordChar && (keywordName? (toUpperText name)).isNone
      && (wordExpression? (wordToken name)).isNone))

theorem isFreeName_of_plain {name : String} (h : isPlainName name = true) : isFreeName name = true := by
  simp only [isPlainName, isFreeName, Bool.and_eq_true, Bool.or_eq_true] at h ⊢
  refine h.imp_right (Or.imp_right (And.imp_left (And.imp_right fun hkeyword => ?_)))
  rw [Option.isNone_iff_eq_none.mp hkeyword]
  rfl

def ColumnRef.isPlain : ColumnRef → Bool
  | .star => true
  | .named name => isPlainName name

theorem ColumnRef.isFree_of_plain {column : ColumnRef} (h : column.isPlain = true) : column.isFree = true := by
  cases column with
  | star => rfl
  | named name => exact isFreeName_of_plain h

theorem upperChars_mark_ne {c : Char} (hc : c ∈ ['*', '\x60']) (cs : List Char) {word : String}
    (hword : word.toList.head?.any isWordChar = true) : upperChars (c :: cs) ≠ word.toList := by
  have hall : ∀ c ∈ ['*', '\x60'], upperChar c = [c] ∧ isWordChar c = false :=
    forall_mem_of_all (by decide)
  intro heq
  obtain ⟨hupper, hno⟩ := hall c hc
  rw [← heq, upperChars, List.flatMap_cons, hupper] at hword
  simp [hno] at hword

theorem upperChars_column_ne {column : ColumnRef} (hcolumn : column.isPlain = true) {word : String}
    (hkeyword : (keywordName? word).isSome = true) (hword : word.toList.head?.any isWordChar = true) :
    upperChars column.chars ≠ word.toList := by
  cases column with
  | star => exact upperChars_mark_ne (by decide) [] hword
  | named name =>
    by_cases hbare : isBareName name.toList = true
    · intro heq
      have hchars : toUpperText name = word := by
        simp only [ColumnRef.chars, nameChars, hbare, if_true] at heq
        rw [toUpperText, heq, String.ofList_toList]
      have hplain : isPlainName name = true := hcolumn
      simp only [isPlainName, hbare, Bool.not_true, Bool.false_or, Bool.and_eq_true,
        Option.isNone_iff_eq_none] at hplain
      obtain ⟨-, ⟨-, hnone⟩, -⟩ := hplain
      rw [← hchars, hnone] at hkeyword
      cases hkeyword
    · simp only [ColumnRef.chars, nameChars, hbare, backtickQuoted]
      exact upperChars_mark_ne (by decide) _ hword

/-- A column and a name for it that are a phrase together: `version AS of`. -/
def isVersionPhrase (column : ColumnRef) (name : String) : Bool :=
  upperChars column.chars = "VERSION".toList && upperChars (nameChars name) = "OF".toList

theorem isAsOfPhrase_of_plain {column : ColumnRef} (hcolumn : column.isPlain = true) {name : String}
    (h : isVersionPhrase column name = false) : isAsOfPhrase column name = false := by
  have htimestamp : upperChars column.chars ≠ "TIMESTAMP".toList :=
    upperChars_column_ne hcolumn (by decide +kernel) (by decide)
  rw [isVersionPhrase, Bool.and_eq_false_iff, decide_eq_false_iff_not] at h
  rw [isAsOfPhrase, Bool.and_eq_false_iff]
  exact h.imp_left fun hversion => by simpa using And.intro hversion htimestamp

/-! Definitions. -/

/-- A column by a name that stands for itself. -/
def isPlainColumn (name : String) : Bool :=
  (ColumnRef.ofName name).isPlain

/-- A filter on such a column with a value that no zero character spoils. -/
def FilterCondition.isPlain (f : FilterCondition) : Bool :=
  (filled? f.column).all isPlainColumn && isPlainValue (f.value.getD "")

def FieldSelection.isPlain (f : FieldSelection) : Bool :=
  (filled? f.column).all fun column => isPlainColumn column &&
    (filled? f.outputName).all fun name =>
      isPlainName name && ((filled? f.aggregation).isSome || !isVersionPhrase (.ofName column) name)

/-- A definition whose names and values stand for themselves, as far as they become part of the text. -/
structure VisualQuery.IsPlain (q : VisualQuery) : Prop where
  database : ∀ name ∈ filled? q.database, isPlainName name = true ∧ toUpperText name ≠ "ONLY"
  table : ∀ name ∈ filled? q.table, isPlainName name = true
  field : ∀ f ∈ q.fields, f.isPlain = true
  filter : q.enableFilter = true → ∀ f ∈ q.filters, f.isPlain = true
  group : q.enableGroup = true → ∀ name ∈ q.groupBy, isPlainColumn name = true
  order : q.enableOrder = true → ∀ name ∈ filled? q.orderBy, isPlainColumn name = true

/-- A column and an alias that are a phrase together. -/
def FieldSelection.isPhrase (f : FieldSelection) : Bool :=
  (filled? f.aggregation).isNone && (filled? f.column).any fun column =>
    (filled? f.outputName).any (isAsOfPhrase (.ofName column))

/-- A definition whose names stand for themselves, as far as they become part of the text. -/
structure VisualQuery.IsNamed (q : VisualQuery) : Prop where
  name : ∀ x ∈ q.names, isFreeName x.2 = true
  only : ∀ name ∈ filled? q.database, toUpperText name ≠ "ONLY"
  phrase : ∀ f ∈ q.fields, f.isPhrase = false

theorem ColumnRef.isFree_iff {column : ColumnRef} (place : Place) :
    column.isFree = true ↔ ∀ x ∈ column.names place, isFreeName x.2 = true := by
  cases column <;> simp [isFree, names]

theorem FieldSelection.isFree_names {f : FieldSelection} (hf : f.isPlain = true) :
    (∀ x ∈ f.names, isFreeName x.2 = true) ∧ f.isPhrase = false := by
  unfold FieldSelection.names FieldSelection.isPhrase
  unfold FieldSelection.isPlain at hf
  cases hcolumn : filled? f.column with
  | none => simp
  | some column =>
    rw [hcolumn, Option.all_some, Bool.and_eq_true] at hf
    have hnames := (ColumnRef.isFree_iff .field).mp (ColumnRef.isFree_of_plain hf.1)
    cases houtput : filled? f.outputName with
    | none => simpa using hnames
    | some name =>
      rw [houtput, Option.all_some, Bool.and_eq_true] at hf
      obtain ⟨hplain, hname, hphrase⟩ := hf
      refine ⟨fun x hx => ?_, ?_⟩
      · rcases List.mem_append.mp hx with hx | hx
        · exact hnames x hx
        · split at hx
          · cases hx
          · obtain rfl := List.mem_singleton.mp hx
            exact isFreeName_of_plain hname
      · cases haggregation : filled? f.aggregation with
        | none =>
          have hversion : isVersionPhrase (.ofName column) name = false := by simpa [haggregation] using hphrase
          simpa using isAsOfPhrase_of_plain hplain hversion
        | some text => simp

theorem FilterCondition.isFree_names {f : FilterCondition} (hf : f.isPlain = true) :
    ∀ x ∈ f.names, isFreeName x.2 = true := by
  unfold FilterCondition.names
  split
  · rename_i column operator hcolumn hoperator
    rw [FilterCondition.isPlain, hcolumn, Option.all_some, Bool.and_eq_true] at hf
    exact (ColumnRef.isFree_iff .filter).mp (ColumnRef.isFree_of_plain hf.1)
  · exact List.forall_mem_nil _

theorem VisualQuery.IsPlain.isNamed {q : VisualQuery} (hq : q.IsPlain) : q.IsNamed where
  name := by
    simp only [VisualQuery.names, List.forall_mem_append, List.forall_mem_flatMap, List.forall_mem_map,
      Option.mem_toList]
    refine ⟨⟨⟨⟨fun f hf => (f.isFree_names (hq.field f hf)).1,
      fun name hname => isFreeName_of_plain (hq.database name hname).1,
      fun name hname => isFreeName_of_plain (hq.table name hname)⟩, ?_⟩, ?_⟩, ?_⟩
    · by_cases henabled : q.enableFilter = true
      · rw [if_pos henabled, List.forall_mem_flatMap]
        exact fun f hf => f.isFree_names (hq.filter henabled f hf)
      · simp [henabled]
    · by_cases henabled : q.enableGroup = true
      · rw [if_pos henabled, List.forall_mem_flatMap]
        exact fun name hname =>
          (ColumnRef.isFree_iff .group).mp (ColumnRef.isFree_of_plain (hq.group henabled name hname))
      · simp [henabled]
    · by_cases henabled : q.enableOrder = true
      · rw [if_pos henabled, List.forall_mem_flatMap]
        exact fun name hname => (ColumnRef.isFree_iff .order).mp
          (ColumnRef.isFree_of_plain (hq.order henabled name (Option.mem_toList.mp hname)))
      · simp [henabled]
  only name hname := (hq.database name hname).2
  phrase f hf := (f.isFree_names (hq.field f hf)).2

theorem exists_field_of_mem {fields : List FieldSelection} {items : List Projection}
    (h : projections fields = .ok items) {p : Projection} (hp : p ∈ items) :
    ∃ f ∈ fields, ∃ column ∈ filled? f.column, f.projection column = .ok p := by
  induction fields generalizing items with
  | nil =>
    obtain rfl := Except.ok.inj h
    cases hp
  | cons f rest ih =>
    have hrest : ∀ {items}, projections rest = .ok items → p ∈ items →
        ∃ f' ∈ f :: rest, ∃ column ∈ filled? f'.column, f'.projection column = .ok p := by
      intro items h hp
      obtain ⟨f', hf', hgives⟩ := ih h hp
      exact ⟨f', List.mem_cons_of_mem _ hf', hgives⟩
    unfold projections at h
    split at h
    · exact hrest h hp
    · rename_i column hcolumn
      obtain ⟨first, hfirst, h⟩ := bind_eq_ok h
      obtain ⟨others, hothers, h⟩ := bind_eq_ok h
      obtain rfl := Except.ok.inj h
      rcases List.mem_cons.mp hp with rfl | hp
      · exact ⟨f, List.mem_cons_self, column, hcolumn, hfirst⟩
      · exact hrest hothers hp

theorem FieldSelection.isFree_projection {f : FieldSelection} {column : String} {p : Projection}
    (hcolumn : column ∈ filled? f.column) (h : f.projection column = .ok p) (hphrase : f.isPhrase = false)
    (hnames : ∀ x ∈ p.names, isFreeName x.2 = true) : p.isFree = true := by
  simp only [Projection.names, List.forall_mem_append, List.forall_mem_map, Option.mem_toList] at hnames
  have hopen : ∀ name ∈ p.outputName, (p.aggregation.isSome || !isAsOfPhrase p.column name) = true := by
    intro name hname
    unfold FieldSelection.projection at h
    split at h
    · split at h
      · cases h
        rfl
      · exact absurd h (by simp [invalidPayload])
    · rename_i haggregation
      split at h
      · cases h
        cases hname
      · rename_i hstar
        cases h
        have hnamed : ColumnRef.ofName column = .named column := if_neg hstar
        have houtput : filled? f.outputName = some name := hname
        simpa [FieldSelection.isPhrase, haggregation, Option.mem_def.mp hcolumn, houtput, hnamed] using hphrase
  simp only [Projection.isFree, Bool.and_eq_true, Option.all_eq_true]
  exact ⟨(ColumnRef.isFree_iff .field).mpr hnames.1, fun name hname => ⟨hnames.2 name hname, hopen name hname⟩⟩

/-- What holds of all predicates that a filter may become holds of those in the condition. -/
theorem VisualQuery.forall_predicates {q : VisualQuery} {s : Select} (h : q.select = .ok s) {P : Predicate → Prop}
    (hfilters : q.enableFilter = true → ∀ f ∈ q.filters, ∀ column ∈ filled? f.column,
      ∀ p : Predicate, p.IsFrom column (f.value.getD "") → P p) : ∀ p ∈ predicatesOf s.condition, P p := by
  obtain ⟨-, -, -, -, hcondition, -⟩ := q.select_eq h
  by_cases henabled : q.enableFilter = true
  · rw [if_pos henabled] at hcondition
    exact predicatesOf_conditionOf (hfilters henabled) (List.forall_mem_nil _) hcondition
  · rw [if_neg henabled] at hcondition
    rw [← Except.ok.inj hcondition]
    exact List.forall_mem_nil _

theorem VisualQuery.select_isNamed {q : VisualQuery} (hq : q.IsNamed) {s : Select} (h : q.select = .ok s) :
    s.IsNamed := by
  have hname : ∀ x ∈ s.names, isFreeName x.2 = true := q.names_select h ▸ hq.name
  obtain ⟨hdatabase, -, hitems, hne, -⟩ := q.select_eq h
  simp only [Select.names, List.forall_mem_append, List.forall_mem_flatMap, List.forall_mem_cons] at hname
  obtain ⟨⟨⟨⟨hfields, hsource, htablename, -⟩, hfilters⟩, hgroups⟩, horders⟩ := hname
  have hcomplete : ∀ p ∈ predicatesOf s.condition, p.isComplete = true :=
    q.forall_predicates h fun _ _ _ _ _ _ hp => hp.complete
  refine ⟨hne, fun p hp => ?_, hsource, hq.only _ hdatabase, htablename, fun c hc => ?_, ?_, ?_⟩
  · obtain ⟨f, hf, column, hcolumn, hgives⟩ := exists_field_of_mem hitems hp
    exact f.isFree_projection hcolumn hgives (hq.phrase f hf) (hfields p hp)
  · rw [Option.mem_def.mp hc] at hfilters hcomplete
    exact List.all_eq_true.mpr fun p hp => Predicate.isNamed_iff.mpr
      ⟨(ColumnRef.isFree_iff .filter).mpr (hfilters p hp), hcomplete p hp⟩
  · exact fun column hcolumn => (ColumnRef.isFree_iff .group).mpr (hgroups column hcolumn)
  · exact fun o ho => (ColumnRef.isFree_iff .order).mpr (horders o (Option.mem_toList.mpr ho))

theorem VisualQuery.reread_select {q : VisualQuery} (hq : q.IsPlain) {s : Select} (h : q.select = .ok s) :
    s.reread = s := by
  have hvalues : ∀ p ∈ predicatesOf s.condition, ∀ value ∈ p.values, rereadValue value = value := by
    refine q.forall_predicates h fun henabled f hf column _ p hp value hvalue => ?_
    obtain ⟨part, hpart, rfl⟩ := hp.values value hvalue
    have hplain := ((Bool.and_eq_true _ _).mp (hq.filter henabled f hf)).2
    exact rereadValue_eq_self (isPlainValue_part hplain hpart)
  refine Select.reread_eq_self fun c hc => ?_
  rw [Option.mem_def.mp hc] at hvalues
  exact hvalues

end QueryGate
