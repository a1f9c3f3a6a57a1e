import Mathlib.Data.List.TakeWhile
import QueryGate.Proofs.Service.LookupText
import QueryGate.Statement.Catalog
import QueryGate.Sql.Parser
/-! The catalog in front of what a statement reads from, and the catalog of a lookup. A statement gets the
name of the catalog as it is, a lookup the name as it is spelled in SQL, so that they mean the same catalog
exactly where that name may stand bare. -/

namespace QueryGate

/-- Reads the name of a catalog in front of a point. Blanks may stand round the name. -/
def BareRule.readCatalog? (rule : BareRule) (cs : List Char) : Option String :=
  match rule.readName? (cs.dropWhile isBlank) with
  | some (name, rest) => if (rest.dropWhile isBlank).head? = some '.' then some name else none
  | none => none

/-- The text of the names of a lookup. -/
def Lookup.path (l : Lookup) : List Char :=
  l.statement.toList.drop (l.keywords.flatMap (·.toList ++ [' '])).length

theorem Lookup.path_eq (l : Lookup) : l.path = pathChars l.names := by
  rw [path, toList_statement, List.drop_left]

/-! No name is read from itself as if it were quoted: before the first point there is too little text. -/

def beforePoint (cs : List Char) : List Char :=
  cs.takeWhile (· ≠ '.')

@[simp] theorem beforePoint_point (cs : List Char) : beforePoint ('.' :: cs) = [] :=
  rfl

theorem beforePoint_cons {c : Char} (hc : c ≠ '.') (cs : List Char) :
    beforePoint (c :: cs) = c :: beforePoint cs := by
  simp [beforePoint, hc]

theorem beforePoint_append_point (cs rest : List Char) : beforePoint (cs ++ '.' :: rest) = beforePoint cs := by
  induction cs with
  | nil => rfl
  | cons c cs ih =>
    by_cases hc : c = '.'
    · simp [hc]
    · rw [List.cons_append, beforePoint_cons hc, beforePoint_cons hc, ih]

theorem length_beforePoint_append (cs rest : List Char) :
    (beforePoint cs).length ≤ (beforePoint (cs ++ rest)).length := by
  induction cs with
  | nil => exact Nat.zero_le _
  | cons c cs ih =>
    by_cases hc : c = '.'
    · simp [hc]
    · simpa [beforePoint_cons hc] using ih

theorem length_beforePoint_doubleBackticks (cs : List Char) :
    (beforePoint cs).length ≤ (beforePoint (doubleBackticks cs)).length := by
  induction cs with
  | nil => rfl
  | cons c cs ih =>
    by_cases hc : c = '.'
    · simp [hc]
    · rw [beforePoint_cons hc]
      by_cases hquote : c = '\x60'
      · have hne : '\x60' ≠ '.' := by decide
        simp only [doubleBackticks, hquote, if_true, beforePoint_cons hne, List.length_cons]
        omega
      · simpa [doubleBackticks, hquote, beforePoint_cons hc] using ih

theorem not_quoted_before_point {name rest more : List Char} :
    (name ++ '.' :: rest).dropWhile isBlank ≠ backtickQuoted name ++ more := by
  intro h
  -- A blank is no point, so that what is skipped leaves the part before the first point no longer.
  have hblanks : ∀ c ∈ (name ++ '.' :: rest).takeWhile isBlank, decide (c ≠ '.') = true := by
    intro c hc
    have hblank := List.mem_takeWhile_imp hc
    rw [decide_eq_true_eq]
    rintro rfl
    exact absurd hblank (by decide)
  have hsplit := List.takeWhile_append_dropWhile (p := isBlank) (l := name ++ '.' :: rest)
  have hlength : (beforePoint (backtickQuoted name ++ more)).length ≤ (beforePoint name).length := by
    rw [← beforePoint_append_point name rest, ← h]
    conv_rhs => rw [← hsplit, beforePoint, List.takeWhile_append_of_pos hblanks, List.length_append]
    exact Nat.le_add_left _ _
  have hquoted := length_beforePoint_append (doubleBackticks name) ('\x60' :: more)
  have hdouble := length_beforePoint_doubleBackticks name
  have hne : '\x60' ≠ '.' := by decide
  rw [backtickQuoted, List.cons_append, beforePoint_cons hne, List.length_cons, List.append_assoc,
    List.singleton_append] at hlength
  omega

/-! The two texts of one catalog. -/

theorem BareRule.readCatalog?_of_accepts {rule : BareRule} {name : String} {blanks : List Char}
    (h : rule.accepts name.toList = true) (hblanks : ∀ c ∈ blanks, isBlank c = true) (rest : List Char) :
    rule.readCatalog? (name.toList ++ (blanks ++ '.' :: rest)) = some name := by
  have hstart : (name.toList ++ (blanks ++ '.' :: rest)).dropWhile isBlank =
      name.toList ++ (blanks ++ '.' :: rest) := by
    cases hname : name.toList with
    | nil =>
      rw [hname, rule.nonempty] at h
      cases h
    | cons c cs =>
      have hc := rule.unbroken h c (by simp [hname])
      simp only [endsBareName, Bool.or_eq_false_iff] at hc
      simp [hc.1.1]
  have hend : (blanks ++ '.' :: rest).head?.all endsBareName = true := by
    cases blanks with
    | nil => exact show endsBareName '.' = true by decide
    | cons c blanks => simp [endsBareName, hblanks c List.mem_cons_self]
  have hpoint : (blanks ++ '.' :: rest).dropWhile isBlank = '.' :: rest := by
    rw [List.dropWhile_append_of_pos hblanks]
    exact List.dropWhile_cons_of_neg (by decide)
  unfold readCatalog?
  rw [hstart, rule.readName?_bare h hend]
  simp [hpoint]

theorem BareRule.readCatalog?_eq_some_iff (rule : BareRule) (catalog : String) (rest : List Char) :
    rule.readCatalog? (catalog.toList ++ '.' :: rest) = some (denotedName catalog) ↔
      rule.accepts (denotedName catalog).toList = true := by
  constructor
  · intro h
    -- Only a name that is not bare for itself could be read from quotes in place of its own characters.
    cases hbare : isBareName catalog.toList with
    | true => exact rule.word (denotedName_of_bare hbare).1
    | false =>
      rw [denotedName_of_not_bare hbare] at h ⊢
      unfold readCatalog? at h
      split at h
      · rename_i name more hread
        split at h
        · obtain rfl : name = catalog := Option.some.inj h
          exact (rule.readName?_sound hread).resolve_right not_quoted_before_point
        · cases h
      · cases h
  · intro h
    cases hbare : isBareName catalog.toList with
    | true =>
      obtain ⟨-, feed, hcatalog, hfeed⟩ := denotedName_of_bare hbare
      have hread := rule.readCatalog?_of_accepts h hfeed rest
      rwa [← List.append_assoc, ← hcatalog] at hread
    | false =>
      rw [denotedName_of_not_bare hbare] at h ⊢
      exact rule.readCatalog?_of_accepts h (List.forall_mem_nil _) rest

/-- Where a statement gets a catalog, it means the catalog that lookups under that name mean exactly if the
name may stand bare. Other names are quoted in the lookups alone. -/
theorem injectCatalog_denotes_iff (rule : BareRule) {catalog sql : String} {before rest : List Char}
    (hsplit : splitAfterLetters? fromWord sql.toList = some (before, rest)) :
    (injectCatalog catalog sql).toList = before ++ catalog.toList ++ '.' :: rest ∧
      ∀ l : Lookup, l.names.head? = some catalog →
        (rule.readCatalog? ((injectCatalog catalog sql).toList.drop before.length) =
            (rule.readPath? l.path).bind List.head? ↔
          rule.accepts (denotedName catalog).toList = true) := by
  have htext : (injectCatalog catalog sql).toList = before ++ catalog.toList ++ '.' :: rest := by
    simp [injectCatalog, hsplit]
  refine ⟨htext, fun l hcatalog => ?_⟩
  have hread : (rule.readPath? l.path).bind List.head? = some (denotedName catalog) := by
    rw [l.path_eq, rule.readPath?_pathChars l.names_ne_nil]
    simp [hcatalog]
  rw [hread, htext, List.append_assoc, List.drop_left]
  exact rule.readCatalog?_eq_some_iff catalog rest

theorem injectCatalog_denotes_main :
    splitAfterLetters? fromWord "SELECT a FROM s.t".toList = some ("SELECT a FROM ".toList, "s.t".toList) ∧
      BareRule.wordRuns.readCatalog? ((injectCatalog "main" "SELECT a FROM s.t").toList.drop 14) =
        (BareRule.wordRuns.readPath? (Lookup.schemas "main").path).bind List.head? := by
  have hsplit : splitAfterLetters? fromWord "SELECT a FROM s.t".toList =
      some ("SELECT a FROM ".toList, "s.t".toList) := by decide
  exact ⟨hsplit, ((injectCatalog_denotes_iff .wordRuns hsplit).2 (.schemas "main") rfl).mpr (by decide)⟩

/-- A catalog with a hyphen makes a statement unreadable, while the lookup finds it. -/
theorem injectCatalog_hyphen :
    injectCatalog "my-catalog" "SELECT a FROM s.t" = "SELECT a FROM my-catalog.s.t" ∧
      BareRule.wordRuns.readCatalog? "my-catalog.s.t".toList = none ∧
      (BareRule.wordRuns.readPath? (Lookup.schemas "my-catalog").path).bind List.head? =
        some "my-catalog" ∧
      (parseSql "SELECT a FROM my-catalog.s.t").isOk = false := by
  decide +kernel

end QueryGate
