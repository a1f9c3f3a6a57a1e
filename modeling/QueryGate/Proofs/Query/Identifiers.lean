import QueryGate.Proofs.Query.Precedence
import QueryGate.Proofs.Sql.Naming
import QueryGate.Proofs.Statement.Occurrence
import QueryGate.Proofs.Statement.Letter
/-! The names of a definition, read back from its text. Each is read as it was given and where it was given if it
stands in backticks, or if it is a bare word that is a name wherever one may stand. Keywords stand bare too, and
some of them are read as something else. -/

namespace QueryGate

/-! Names in backticks. -/

/-- The letters of `VALUES` and `ONLY` are spelled by word characters, and the first ones by letters that may start
a name. -/
theorem isWordChar_of_upperChar {c w : Char} (hw : w ∈ "VALUESONLY".toList) (h : w ∈ upperChar c) :
    isWordChar c = true ∧ (w ∈ ['V', 'O'] → isNameStart c = true) := by
  have hblock : ∀ w ∈ "VALUESONLY".toList, 0 < w.toNat ∧ w.toNat < 0x80 := forall_mem_of_all (by decide)
  have hall : ∀ n ∈ List.range 0x80 ++ upperSources, ∀ w ∈ upperChar (Char.ofNat n), w ∈ "VALUESONLY".toList →
      isWordChar (Char.ofNat n) = true ∧ (w ∈ ['V', 'O'] → isNameStart (Char.ofNat n) = true) :=
    forall_mem_mem_of_all (by decide +kernel)
  have hletter := of_mem_upperChar (p := fun c => ∀ w ∈ upperChar c, w ∈ "VALUESONLY".toList →
    isWordChar c = true ∧ (w ∈ ['V', 'O'] → isNameStart c = true)) hall h (hblock w hw).1 (hblock w hw).2
  exact hletter w h hw

theorem isBareName_of_upperChars {cs rest : List Char} {w : Char} (h : upperChars cs = w :: rest)
    (hfirst : w ∈ ['V', 'O']) (hletters : ∀ v ∈ w :: rest, v ∈ "VALUESONLY".toList) : isBareName cs = true := by
  have hletter : ∀ c ∈ cs, ∃ v ∈ upperChar c, v ∈ "VALUESONLY".toList := by
    intro c hc
    obtain ⟨v, more, hupper⟩ := List.exists_cons_of_ne_nil (upperChar_ne_nil c)
    have hv : v ∈ upperChar c := by simp [hupper]
    exact ⟨v, hv, hletters v (h ▸ List.mem_flatMap.mpr ⟨c, hc, hv⟩)⟩
  refine IsBareWord.isBareName ⟨?_, fun c hc => ?_⟩
  · cases cs with
    | nil => cases h
    | cons c cs =>
      obtain ⟨v, more, hupper⟩ := List.exists_cons_of_ne_nil (upperChar_ne_nil c)
      rw [upperChars_cons, hupper, List.cons_append] at h
      obtain ⟨rfl, -⟩ := List.cons.inj h
      have hv : v ∈ upperChar c := by simp [hupper]
      exact (isWordChar_of_upperChar (hletters v List.mem_cons_self) hv).2 hfirst
  · obtain ⟨v, hv, hword⟩ := hletter c hc
    exact (isWordChar_of_upperChar hword hv).1

/-- Either word is a bare name, in whatever letters it is written. -/
theorem isBareName_of_toUpperText {name word : String} (hword : word ∈ ["VALUES", "ONLY"])
    (h : toUpperText name = word) : isBareName name.toList = true := by
  have hchars : upperChars name.toList = word.toList := by rw [← h, toUpperText, String.toList_ofList]
  simp only [List.mem_cons, List.not_mem_nil, or_false] at hword
  rcases hword with rfl | rfl
  · exact isBareName_of_upperChars hchars (by decide) (forall_mem_of_all (by decide))
  · exact isBareName_of_upperChars hchars (by decide) (forall_mem_of_all (by decide))

theorem isFreeName_of_not_bare {name : String} (h : isBareName name.toList = false) : isFreeName name = true := by
  have hvalues : toUpperText name ≠ "VALUES" := fun heq => by
    rw [isBareName_of_toUpperText (by decide) heq] at h
    cases h
  simp [isFreeName, h, hvalues]

/-- A column in backticks makes no phrase with its alias. -/
theorem isAsOfPhrase_of_not_bare {column : ColumnRef} {place : Place}
    (h : ∀ x ∈ column.names place, isBareName x.2.toList = false) (name : String) :
    isAsOfPhrase column name = false := by
  have hne : ∀ word ∈ ["VERSION", "TIMESTAMP"], upperChars column.chars ≠ word.toList := by
    have hstart : ∀ word ∈ ["VERSION", "TIMESTAMP"], word.toList.head?.any isWordChar = true := by decide
    intro word hword
    cases column with
    | star => exact upperChars_mark_ne (by decide) [] (hstart word hword)
    | named given =>
      have hquoted : isBareName given.toList = false := h _ List.mem_cons_self
      simp only [ColumnRef.chars, nameChars, hquoted, backtickQuoted]
      exact upperChars_mark_ne (by decide) _ (hstart word hword)
  rw [isAsOfPhrase, Bool.and_eq_false_iff]
  exact .inl (by simpa using And.intro (hne "VERSION" (by decide)) (hne "TIMESTAMP" (by decide)))

theorem VisualQuery.isNamed_of_not_bare {q : VisualQuery} (h : ∀ x ∈ q.names, isBareName x.2.toList = false) :
    q.IsNamed where
  name x hx := isFreeName_of_not_bare (h x hx)
  only name hname heq := by
    have hmem : (Place.source, name) ∈ q.names := by simp [VisualQuery.names, Option.mem_def.mp hname]
    have hbare := isBareName_of_toUpperText (by decide) heq
    rw [h _ hmem] at hbare
    cases hbare
  phrase f hf := by
    unfold FieldSelection.isPhrase
    cases hcolumn : filled? f.column with
    | none => simp
    | some column =>
      have hnames : ∀ x ∈ (ColumnRef.ofName column).names .field, isBareName x.2.toList = false := fun x hx =>
        h x (by
          have hmem : x ∈ f.names := by
            simp only [FieldSelection.names, hcolumn]
            exact List.mem_append_left _ hx
          simp only [VisualQuery.names, List.mem_append, List.mem_flatMap]
          exact .inl (.inl (.inl (.inl ⟨f, hf, hmem⟩))))
      have hphrase : isAsOfPhrase (.ofName column) = fun _ => false := funext (isAsOfPhrase_of_not_bare hnames)
      simp [hphrase]

/-! Reading back. -/

theorem Select.names_reread (s : Select) : s.reread.names = s.names := by
  have hpredicates : (predicatesOf s.reread.condition).flatMap (·.column.names .filter) =
      (predicatesOf s.condition).flatMap (·.column.names .filter) := by
    unfold Select.reread
    cases s.condition with
    | none => rfl
    | some c => simp [predicatesOf, List.flatMap_map]
  unfold Select.names
  rw [hpredicates]
  rfl

/-- The text of a definition is read as one query with the names that the definition gives, each in its place, if
these are names wherever one may stand. All names that stand in backticks are. -/
theorem VisualQuery.names_readBack (q : VisualQuery) :
    ((∀ x ∈ q.names, isBareName x.2.toList = false) → q.IsNamed) ∧
      ∀ text, q.IsNamed → q.text = .ok text → ∃ tree, parseSql text = .ok [tree] ∧ tree.names = q.names := by
  refine ⟨q.isNamed_of_not_bare, fun text hq h => ?_⟩
  obtain ⟨s, hs, rfl⟩ := map_eq_ok h
  refine ⟨s.reread.tree, s.parseSql_text (q.select_isNamed hq hs), ?_⟩
  rw [s.reread.names_tree, s.names_reread, q.names_select hs]

/-- A definition whose names are full of marks, or are keywords that are names anywhere. -/
def markedDefinition : VisualQuery where
  database := some "my.db"
  table := some "table"
  fields := [⟨some "a\x60b", none, some "o'c\n"⟩, ⟨some "date", some "max", none⟩]
  filters := [⟨some "SELECT *", some "=", some "\x0007", none⟩, ⟨some "timestamp", some "<", some "*/", none⟩]
  groupBy := ["a\x60b", "x, y"]
  orderBy := some "first"
  orderDirection := none
  limit := none
  enableFilter := true
  enableGroup := true
  enableOrder := true

theorem VisualQuery.names_readBack_marked : markedDefinition.IsNamed ∧
    ∃ text tree, markedDefinition.text = .ok text ∧ parseSql text = .ok [tree] ∧
      tree.names = [(.field, "a\x60b"), (.output, "o'c\n"), (.field, "date"), (.source, "my.db"), (.source, "table"),
        (.filter, "SELECT *"), (.filter, "timestamp"), (.group, "a\x60b"), (.group, "x, y"), (.order, "first")] := by
  have hnamed : markedDefinition.IsNamed :=
    ⟨by decide +kernel, by decide +kernel, by decide +kernel⟩
  have htext : markedDefinition.text = .ok ("SELECT \x60a\x60\x60b\x60 AS \x60o'c\n\x60, MAX(date) FROM "
      ++ "\x60my.db\x60.table WHERE \x60SELECT *\x60 = '\\007' AND timestamp < '*/' "
      ++ "GROUP BY \x60a\x60\x60b\x60, \x60x, y\x60 ORDER BY first ASC NULLS LAST") := by decide +kernel
  obtain ⟨tree, hparse, hnames⟩ := (VisualQuery.names_readBack markedDefinition).2 _ hnamed htext
  exact ⟨hnamed, _, tree, htext, hparse, by rw [hnames]; decide +kernel⟩

/-- A definition with one column. -/
def definitionOf (name : String) : VisualQuery :=
  { definitionWith "" with fields := [⟨some name, none, none⟩], enableFilter := false }

/-- Other names stand bare too. There `select` is no name, `null` is read as the literal, and a line feed at the end
is lost. -/
theorem VisualQuery.names_lost :
    ((definitionOf "select").text = .ok "SELECT select FROM sales.orders" ∧
      (parseSql "SELECT select FROM sales.orders").isOk = false) ∧
    ((definitionOf "null").text = .ok "SELECT null FROM sales.orders" ∧
      (parseSql "SELECT null FROM sales.orders").map (·.map (·.names)) =
        .ok [[(.source, "sales"), (.source, "orders")]]) ∧
    (definitionOf "id\n").text = .ok "SELECT id\n FROM sales.orders" ∧
      (parseSql "SELECT id\n FROM sales.orders").map (·.map (·.names)) =
        .ok [[(.field, "id"), (.source, "sales"), (.source, "orders")]] := by
  refine ⟨⟨?_, ?_⟩, ⟨?_, ?_⟩, ?_, ?_⟩ <;> decide +kernel

end QueryGate
