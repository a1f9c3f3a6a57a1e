import QueryGate.Proofs.Service.Discovery
import QueryGate.Proofs.Sql.Naming
/-! The text that a lookup sends: fixed words and behind them the names of a path, whatever the names hold.
The names are read from the text again, so that lookups share a text only where they share their names. -/

namespace QueryGate

variable {σ : Type}

/-- The text is made of lexemes and spaces, and the lexemes are scanned as these tokens, one by one. Here
the words that open a command count as words. -/
inductive Scans : List Char → List Token → Prop
  | nil : Scans [] []
  | space {cs : List Char} {ts : List Token} (h : Scans cs ts) : Scans (' ' :: cs) ts
  | token {lexeme cs : List Char} {t : Token} {ts : List Token} (hlexeme : lexeme ≠ [])
    (hscan : ∀ afterSelect,
      scan afterSelect (lexeme ++ cs) = .ok (.token t.kind t.text t.name, lexeme.length))
    (h : Scans cs ts) : Scans (lexeme ++ cs) (t :: ts)

theorem Scans.word {w cs : List Char} {ts : List Token} (hw : IsBareWord w) (hbreak : BreaksAfter w cs)
    (h : Scans cs ts) : Scans (w ++ cs) (wordLexeme (String.ofList w) :: ts) := by
  refine .token ?_ (scan_word hw.start hw.word hbreak) h
  rintro rfl
  simpa using hw.start

/-! The names of a path. -/

def pathTokens (names : List String) : List Token :=
  separatedTokens (symbolToken ".") (names.map fun name => [writtenToken (denotedName name)])

theorem Scans.name (name : String) {cs : List Char} {ts : List Token} (hbreak : Breaks cs)
    (h : Scans cs ts) : Scans (nameText name ++ cs) (writtenToken (denotedName name) :: ts) := by
  cases hbare : isBareName name.toList with
  | true =>
    have hword := (denotedName_of_bare hbare).1
    have hscans := Scans.word hword (hbreak.after _) h
    rw [nameText_of_bare hbare, writtenToken, if_pos hword.isBareName]
    rwa [String.ofList_toList] at hscans
  | false =>
    have hquote : cs.head? ≠ some '\x60' := fun hhead => by
      have hbreaks := hbreak.head
      rw [hhead] at hbreaks
      exact absurd hbreaks (by decide)
    rw [nameText_of_not_bare hbare, denotedName_of_not_bare hbare, writtenToken, hbare]
    exact .token (by simp [backtickQuoted]) (scan_quoted name hquote) h

theorem Scans.path {names : List String} (hne : names ≠ []) :
    Scans (pathChars names) (pathTokens names) := by
  induction names with
  | nil => exact absurd rfl hne
  | cons name names ih =>
    cases names with
    | nil =>
      have hscans := Scans.name name breaks_nil .nil
      rw [List.append_nil] at hscans
      simpa [pathChars, pathTokens, separatedTokens] using hscans
    | cons next rest =>
      have hpoint : Scans (['.'] ++ pathChars (next :: rest)) (symbolToken "." :: pathTokens (next :: rest)) :=
        .token (by simp) (scan_mark (by decide) _) (ih (by simp))
      rw [pathChars_cons]
      exact Scans.name name (breaks_symbol (by decide) _) hpoint

/-! The words in front of the path. -/

/-- A word with which no phrase starts. -/
structure IsFixedWord (word : String) : Prop where
  bare : IsBareWord word.toList
  phrase : ∀ k ∈ phraseKeywords, phraseFront k.1 ≠ upperChars word.toList

theorem Scans.words {words : List String} (hwords : ∀ word ∈ words, IsFixedWord word) {cs : List Char}
    {ts : List Token} (h : Scans cs ts) :
    Scans (words.flatMap (·.toList ++ [' ']) ++ cs) (words.map wordLexeme ++ ts) := by
  induction words with
  | nil => exact h
  | cons word words ih =>
    obtain ⟨hword, hrest⟩ := List.forall_mem_cons.mp hwords
    have hbreak : BreaksAfter word.toList (' ' :: (words.flatMap (·.toList ++ [' ']) ++ cs)) :=
      ⟨rfl, fun k hk hfront => absurd hfront (hword.phrase k hk)⟩
    have hscans := Scans.word hword.bare hbreak (.space (ih hrest))
    rw [String.ofList_toList] at hscans
    simpa using hscans

namespace Lookup

def keywords : Lookup → List String
  | .schemas _ => ["SHOW", "SCHEMAS", "IN"]
  | .tables _ _ => ["SHOW", "TABLES", "IN"]
  | .columns _ _ _ => ["DESCRIBE", "TABLE"]

def names (l : Lookup) : List String :=
  l.parts.map (·.2)

/-- The lookup under the names that are read from its text. -/
def denoted : Lookup → Lookup
  | .schemas catalog => .schemas (denotedName catalog)
  | .tables catalog schema => .tables (denotedName catalog) (denotedName schema)
  | .columns catalog schema table =>
    .columns (denotedName catalog) (denotedName schema) (denotedName table)

theorem names_ne_nil (l : Lookup) : l.names ≠ [] := by
  cases l <;> simp [names, parts]

theorem toList_statement (l : Lookup) :
    l.statement.toList = l.keywords.flatMap (·.toList ++ [' ']) ++ pathChars l.names := by
  cases l <;> exact String.toList_ofList

theorem isFixedWord_of_mem_keywords {l : Lookup} {word : String} (h : word ∈ l.keywords) :
    IsFixedWord word := by
  have hall : ∀ word ∈ ["SHOW", "SCHEMAS", "TABLES", "IN", "DESCRIBE", "TABLE"],
      word.toList.head?.any isNameStart = true ∧ word.toList.all isWordChar = true ∧
        phraseKeywords.all (fun k => phraseFront k.1 ≠ upperChars word.toList) = true :=
    forall_mem_of_all (by decide +kernel)
  have hfixed : l.keywords ⊆ ["SHOW", "SCHEMAS", "TABLES", "IN", "DESCRIBE", "TABLE"] := by
    cases l <;> simp [keywords]
  obtain ⟨hstart, hword, hphrase⟩ := hall word (hfixed h)
  exact ⟨⟨hstart, List.all_eq_true.mp hword⟩,
    fun k hk => of_decide_eq_true (List.all_eq_true.mp hphrase k hk)⟩

/-- The fixed words of lookups of two kinds differ in a letter. -/
theorem keywords_eq_of_statement_eq {l l' : Lookup} (h : l.statement = l'.statement) :
    l.keywords = l'.keywords := by
  have hchars := congrArg String.toList h
  rw [toList_statement, toList_statement] at hchars
  cases l <;> cases l' <;> simp [keywords] at hchars ⊢

theorem denoted_eq_iff (l l' : Lookup) : l.denoted = l'.denoted ↔
    l.keywords = l'.keywords ∧ l.names.map denotedName = l'.names.map denotedName := by
  cases l <;> cases l' <;> simp [denoted, keywords, names, parts]

theorem statement_eq_iff (l l' : Lookup) : l.statement = l'.statement ↔ l.denoted = l'.denoted := by
  rw [denoted_eq_iff, ← pathChars_eq_iff l.names_ne_nil l'.names_ne_nil]
  constructor
  · intro h
    have hkeywords := keywords_eq_of_statement_eq h
    have hchars := congrArg String.toList h
    rw [toList_statement, toList_statement, hkeywords] at hchars
    exact ⟨hkeywords, List.append_cancel_left hchars⟩
  · rintro ⟨hkeywords, hpath⟩
    rw [← String.toList_inj, toList_statement, toList_statement, hkeywords, hpath]

theorem scans_statement (l : Lookup) :
    Scans l.statement.toList (l.keywords.map wordLexeme ++ pathTokens l.names) := by
  rw [toList_statement]
  exact Scans.words (fun _ h => isFixedWord_of_mem_keywords h) (Scans.path l.names_ne_nil)

end Lookup

/-! What is sent. -/

def Demand.text? : Demand → Option String
  | .execute text => some text
  | _ => none

theorem Lookup.Reads.texts {cursor : Cursor σ} {s : Session σ} {l : Lookup} {demands : List Demand}
    {result : Except Raised (List String)} (h : l.Reads cursor s demands result) :
    demands.filterMap Demand.text? = [] := by
  cases h <;> simp [Demand.text?]

theorem Lookup.Sent.texts {handle : Handle σ} {timeout : Amount} {before : Session σ} {l : Lookup}
    {demands : List Demand} {result : Except Raised (List String)}
    (h : l.Sent handle timeout before demands result) :
    demands.filterMap Demand.text? = [l.statement] := by
  cases h with
  | unopened h => rfl
  | unclosed h hpick hreads hclose => simp [Demand.text?, hreads.texts]
  | closed h hpick hreads hclose => simp [Demand.text?, hreads.texts]

/-- A lookup with all its names sends its statement and no other. -/
theorem Lookup.run_texts (handle : Handle σ) (timeout : Amount) (l : Lookup)
    (s : Session (σ × List Demand)) : ∃ demands,
      ((l.run handle.demanded timeout).outcome s).2.outside.2 = s.outside.2 ++ demands ∧
      demands.filterMap Demand.text? = if l.missing?.isSome then [] else [l.statement] := by
  cases hpart : l.missing? with
  | some part => exact ⟨[], by rw [outcome_run_of_missing hpart, List.append_nil], rfl⟩
  | none =>
    obtain ⟨demands, result, after, -, hcounted, hsent⟩ := l.send_demanded handle timeout s
    refine ⟨demands, ?_, hsent.texts⟩
    rw [run_of_complete hpart, outcome_lookUp handle.demanded timeout l hcounted]
    rfl

/-- What a lookup sends is its fixed words and the names of its path, each a bare word or a text between
backticks, and nothing else, whatever the names hold. The names are read from it again, without the line
feed that a bare name loses, and only lookups of the same kind with the same names so read share a text. -/
theorem Lookup.statement_readBack (handle : Handle σ) (timeout : Amount) (l : Lookup)
    (s : Session (σ × List Demand)) :
    (∃ demands,
      ((l.run handle.demanded timeout).outcome s).2.outside.2 = s.outside.2 ++ demands ∧
      demands.filterMap Demand.text? = if l.missing?.isSome then [] else [l.statement]) ∧
    (∃ spelled, l.statement.toList =
        l.keywords.flatMap (·.toList ++ [' ']) ++ ['.'].intercalate spelled ∧
      List.Forall₂ Spells spelled (l.names.map denotedName) ∧
      ∀ rule : BareRule,
        rule.readPath? (['.'].intercalate spelled) = some (l.names.map denotedName)) ∧
    Scans l.statement.toList (l.keywords.map wordLexeme ++ pathTokens l.names) ∧
    ∀ l' : Lookup, l.statement = l'.statement ↔ l.denoted = l'.denoted := by
  refine ⟨l.run_texts handle timeout s, ⟨l.names.map nameText, l.toList_statement, ?_, fun rule => ?_⟩,
    l.scans_statement, l.statement_eq_iff⟩
  · rw [List.forall₂_map_left_iff, List.forall₂_map_right_iff]
    exact List.forall₂_same.mpr fun name _ => spells_nameText name
  · exact rule.readPath?_pathChars l.names_ne_nil

/-- Two catalogs, one of them with a line feed at its end, are looked up by one text. -/
theorem Lookup.statement_shared : (Lookup.schemas "main\n").missing? = none ∧
    Lookup.schemas "main\n" ≠ Lookup.schemas "main" ∧
    (Lookup.schemas "main\n").statement = (Lookup.schemas "main").statement := by
  decide

end QueryGate
