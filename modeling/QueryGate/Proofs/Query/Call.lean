import QueryGate.Proofs.Query.Operand
/-! Arguments that are single columns or values, and calls of functions on them. -/

namespace QueryGate

open Grammar Reading

section

variable {text : Array Token} {i j d : Nat} {t : Token}

/-- A token that starts neither a query nor a parenthesis. -/
def isNoQuery (t : Token) : Bool :=
  isFreeToken t && !isNamed "(" t && !isWritten "VALUES" t

theorem IsName.isNoQuery (h : IsName t) : isNoQuery t = true := by
  have hopen : isNamed "(" t = false := by
    have hsymbol := h.isSymbol_eq_false "("
    have hkeyword := isKeyword_of_free h.free (by decide : isFreeKeyword "(" = false)
    simp only [isNamed, isSymbol, isKeyword] at hsymbol hkeyword ⊢
    rw [Bool.and_or_distrib_right, hsymbol, hkeyword]
    rfl
  simp [QueryGate.isNoQuery, h.free, hopen, h.values]

theorem run_values_none (ht : text[i]? = some t) (hno : isNoQuery t = true)
    {answer : {α : Type} → Construct α → Nat → Outcome α} :
    Grammar.values.run text answer i = .ok (none, i) := by
  obtain ⟨⟨-, hopen⟩, hvalues⟩ : (isFreeToken t = true ∧ isNamed "(" t = false) ∧
      isWritten "VALUES" t = false := by simpa [isNoQuery] using hno
  have hpair : (pair "(" "VALUES").run text answer i = .ok (false, i) :=
    run_pair_none_of_first (by simp [ht, hopen]) _
  have heither : (either (return false) (phrase ["VALUES"])).run text answer i = .ok (false, i) :=
    (run_bind_ok (run_pure _ _) _).trans (run_phrase_none _ _ (by simp [ht, hvalues]))
  exact (run_bind_ok hpair _).trans ((run_bind_ok heither _).trans rfl)

/-- No query starts here, though the word `STREAM` may be a name here. -/
theorem read_query_none (ht : text[i]? = some t) (hno : isNoQuery t = true)
    (hcall : ∀ answer : {α : Type} → Construct α → Nat → Outcome α,
      call.run text answer (i + 1) = .ok (none, i + 1)) (place : QueryPlace) :
    Construct.read text (d + 3) (.query place) i = .ok (none, i) := by
  obtain ⟨⟨hfree, hopen⟩, -⟩ : (isFreeToken t = true ∧ isNamed "(" t = false) ∧
      isWritten "VALUES" t = false := by simpa [isNoQuery] using hno
  have hkeyword : ∀ name ∈ ["WITH", "FROM", "SELECT", "DESCRIBE"], isKeyword name t = false := fun name hmem =>
    isKeyword_of_free hfree
      ((by decide : ∀ k ∈ ["WITH", "FROM", "SELECT", "DESCRIBE"], isFreeKeyword k = false) name hmem)
  have hsymbol : isSymbol "(" t = false := by
    by_cases h : t.kind = .symbol <;> simp_all [isSymbol, isNamed]
  have hctes : (inner .ctes).run text (Construct.read text (d + 2)) i = .ok (none, i) :=
    (run_bind_ok (run_accepts_none _ (by simp [ht, hkeyword])) _).trans rfl
  have hsource : source.run text (Construct.read text (d + 2)) i = .ok (none, i) :=
    (run_bind_ok (run_accepts_none _ (by simp [ht, hkeyword])) _).trans rfl
  have hother : ∃ more, Construct.read text (d + 2) .otherQuery i = .ok ((none, more), i) := by
    by_cases hstream : isWritten "STREAM" t = true
    · refine ⟨false, (run_bind_ok (run_here i) _).trans ?_⟩
      refine (run_bind_ok (run_phrase (run_written_cons [] ht hstream)) _).trans ?_
      refine (run_bind_ok (hcall _) _).trans ?_
      exact (run_bind_ok (run_back i (i + 1)) _).trans (by rw [Nat.min_eq_left (Nat.le_succ i)]; rfl)
    · refine ⟨true, (run_bind_ok (run_here i) _).trans ?_⟩
      refine (run_bind_ok (run_phrase_none _ _ (by simp [ht, hstream])) _).trans ?_
      refine (run_bind_ok (run_sees_none _ (by simp [ht, hkeyword])) _).trans ?_
      exact (run_bind_ok (run_values_none ht hno) _).trans rfl
  obtain ⟨more, hother⟩ := hother
  have hplain : (plainQuery place).run text (Construct.read text (d + 2)) i = .ok ((none, more), i) := by
    have hparen : ∀ condition, (onlyIf condition (symbol "(")).run text (Construct.read text (d + 2)) i =
        .ok (false, i) := by
      intro condition
      cases condition with
      | true => exact run_accepts_none _ (by simp [ht, hsymbol])
      | false => rfl
    refine (run_bind_ok hsource _).trans ?_
    refine (run_bind_ok (run_accepts_none _ (by simp [ht, hkeyword])) _).trans ?_
    exact (run_bind_ok (hparen _) _).trans hother
  exact (run_bind_ok hctes _).trans ((run_bind_ok hplain _).trans rfl)

theorem run_anyName (ht : text[i]? = some t)
    (hsymbol : ∀ name ∈ ["?", ":", "@", "->", "=>"], isSymbol name t = false)
    {answer : {α : Type} → Construct α → Nat → Outcome α} :
    ∃ found k, anyName.run text answer i = .ok (found, k) ∧ (k = i ∨ k = i + 1) := by
  by_cases hquoted : t.kind = .quoted
  · have hname : quotedName.run text answer i = .ok (some (identifierOf t), i + 1) :=
      run_bind_ok (run_matchToken _ ht (by simp [hquoted])) _
    exact ⟨_, _, (run_bind_ok hname _).trans rfl, .inr rfl⟩
  · have hname : quotedName.run text answer i = .ok (none, i) := by
      refine (run_bind_ok (run_matchToken_none _ (by simp [ht, hquoted])) _).trans ?_
      refine (run_bind_ok (run_accepts_none _ (by simp [ht, hsymbol])) _).trans ?_
      refine (run_bind_ok (run_take_none _ (by simp [ht, hsymbol])) _).trans ?_
      exact (run_bind_ok (run_accepts_none _ (by simp [ht, hsymbol])) _).trans rfl
    by_cases hany : ((true && !isReservedToken t) || isNameToken t) = true
    · exact ⟨_, _, (run_bind_ok hname _).trans (run_bind_ok (run_matchToken _ ht hany) _), .inr rfl⟩
    · exact ⟨_, _, (run_bind_ok hname _).trans
        (run_bind_ok (run_matchToken_none _ (by simpa [ht] using hany)) _), .inl rfl⟩

theorem run_lambda_none (ht : text[i]? = some t) (hopen : isSymbol "(" t = false)
    (hsymbol : ∀ name ∈ ["?", ":", "@", "->", "=>"], isSymbol name t = false)
    (hstop : Stops text (i + 1) operandEnds) {answer : {α : Type} → Construct α → Nat → Outcome α} :
    lambda.run text answer i = .ok (none, i) := by
  obtain ⟨found, k, hname, hk⟩ : ∃ found k, anyName.run text answer i = .ok (found, k) ∧
      (k = i ∨ k = i + 1) := run_anyName ht hsymbol
  have hparameters : lambdaParameters.run text answer i = .ok (found.toList, k) := by
    refine (run_bind_ok (run_here i) _).trans ?_
    refine (run_bind_ok (run_accepts_none _ (by simp [ht, hopen])) _).trans ?_
    exact (run_bind_ok hname _).trans rfl
  have harrow : ∀ name ∈ ["->", "=>"], text[k]?.any (isSymbol name) = false := by
    intro name hmem
    rcases hk with rfl | rfl
    · have hin : name ∈ ["?", ":", "@", "->", "=>"] := by simp_all
      simp [ht, hsymbol name hin]
    · simp only [List.mem_cons, List.not_mem_nil, or_false] at hmem
      rcases hmem with rfl | rfl <;> exact hstop.any (by decide)
  refine (run_bind_ok (run_here i) _).trans ((run_bind_ok hparameters _).trans ?_)
  refine (run_bind_ok (run_accepts_none _ (harrow _ (by decide))) _).trans ?_
  refine (run_bind_ok (run_accepts_none _ (harrow _ (by decide))) _).trans ?_
  refine (run_bind_ok (run_back i k) _).trans ?_
  have hmin : min i k = i := by omega
  rw [hmin]
  rfl

theorem shareClauses_of_kind {t : Tree} (h : t.kind ∉ [Kind.union, .except, .intersect]) :
    shareClauses t = t := by
  unfold shareClauses
  split
  · rename_i kind words left k x parts
    have hkind : kind ∉ [Kind.union, .except, .intersect] := h
    simp only [hkind, if_false]
  · rfl

theorem read_operation_none (h : Stops text i operandEnds) :
    Construct.read text (d + 1) .operation i = .ok (none, i) := by
  have hwords : joinWords.run text (Construct.read text d) i = .ok ("", i) := by
    refine (run_bind_ok (run_matchToken_none _ (h.any (by decide))) _).trans ?_
    refine (run_bind_ok (run_matchToken_none _ (h.any (by decide))) _).trans ?_
    exact (run_bind_ok (run_matchToken_none _ (h.any (by decide))) _).trans rfl
  refine (run_bind_ok (run_here i) _).trans ((run_bind_ok hwords _).trans ?_)
  refine (run_bind_ok (run_accepts_none _ (h.any (by decide))) _).trans ?_
  refine (run_bind_ok (run_accepts_none _ (h.any (by decide))) _).trans ?_
  refine (run_bind_ok (run_accepts_none _ (h.any (by decide))) _).trans ?_
  refine (run_bind_ok (run_pure _ _) _).trans ?_
  exact (run_bind_ok (run_back i i) _).trans (by rw [Nat.min_self]; rfl)

theorem run_combinations_none {this : Tree} (h : Stops text i operandEnds)
    (hkind : this.kind ∉ [Kind.union, .except, .intersect]) :
    (readCombinations this).run text (Construct.read text (d + 1)) i = .ok (this, i) := by
  have hoperation : (setOperation this).run text (Construct.read text (d + 1)) i = .ok (none, i) :=
    (run_bind_ok (show (inner .operation).run text (Construct.read text (d + 1)) i = _ from
      read_operation_none h) _).trans rfl
  refine (run_bind_ok (run_loop_stop hoperation) _).trans ?_
  rw [shareClauses_of_kind hkind]
  rfl

theorem run_call_end (h : Stops text i [symbolToken ",", symbolToken ")", symbolToken "."])
    (answer : {α : Type} → Construct α → Nat → Outcome α) : call.run text answer i = .ok (none, i) := by
  have hword : ∀ t ∈ [symbolToken ",", symbolToken ")", symbolToken "."],
      (true && (wordExpression? t).isSome) = false := by decide +kernel
  have hcall : (parenthesised (callWith true false true (return none)) false true).run text answer i
      = .ok (none, i) := by
    refine (run_bind_ok (run_take_none _ (h.any fun t ht => ?_)) _).trans rfl
    have hkind : ∀ t ∈ [symbolToken ",", symbolToken ")", symbolToken "."], isCallToken t = false := by
      decide
    simp [hkind t ht]
  refine (run_bind_ok (run_here i) _).trans ?_
  refine (run_bind_ok (run_matchToken_none _ (h.any hword)) _).trans ?_
  refine (run_bind_ok hcall _).trans ?_
  exact (run_bind_ok (run_matchToken_none _ (h.any (by decide))) _).trans rfl

theorem run_nullsWords_none {answer : {α : Type} → Construct α → Nat → Outcome α}
    (h : Stops text i operandEnds) : nullsWords.run text answer i = .ok (false, i) := by
  have hwords : ∀ u ∈ operandEnds, isWritten "IGNORE" u = false ∧ isWritten "RESPECT" u = false := by
    decide +kernel
  exact (run_bind_ok (run_phrase_none _ _ (h.any fun u hu => (hwords u hu).1)) _).trans
    (run_phrase_none _ _ (h.any fun u hu => (hwords u hu).2))

/-- A token that may be an argument on its own, and the tree that it stands for. -/
structure IsArgument (t : Token) (this : Tree) : Prop where
  noQuery : isNoQuery t = true
  symbol : ∀ name ∈ ["?", ":", "@", "->", "=>"], isSymbol name t = false
  kind : this.kind.isQuery = false
  read : ∀ {text : Array Token} {i d : Nat}, text[i]? = some t → Stops text (i + 1) operandEnds →
    readUnary.run text (Construct.read text (d + 1)) i = .ok (some this, i + 1)

theorem identifierOf_writtenToken (name : String) : identifierOf (writtenToken name) = nameTree name := by
  unfold writtenToken nameTree
  cases isBareName name.toList with
  | true =>
    rw [if_pos rfl, wordLexeme]
    split <;> rfl
  | false => rfl

theorem isArgument_column {column : ColumnRef} (hcolumn : column.isFree = true) :
    IsArgument column.token column.tree := by
  cases column with
  | star =>
    exact ⟨by decide +kernel, by decide, rfl, fun ht hend => run_unary_star ht rfl hend⟩
  | named name =>
    have hname := isName_writtenToken hcolumn
    refine ⟨hname.isNoQuery, fun s _ => ?_, rfl, fun ht hend => ?_⟩
    · exact hname.isSymbol_eq_false s
    · rw [run_unary_name ht hname hend, ColumnRef.tree, ← identifierOf_writtenToken]
      rfl

theorem isArgument_text (value : String) : IsArgument (textToken value) (stringTree value) :=
  ⟨by simp [isNoQuery, isFreeToken, isNamed, isWritten, textToken], by simp [isSymbol, textToken],
    rfl, fun ht hend => run_unary_text ht rfl hend⟩

/-- A value or a column where an expression or a query may stand. -/
theorem run_queryOrExpression {this : Tree} (ht : text[i]? = some t) (harg : IsArgument t this)
    (hstop : Stops text (i + 1) [symbolToken ",", symbolToken ")"]) :
    (queryOrExpression false).run text (Construct.read text (d + 3)) i = .ok (some this, i + 1) := by
  have hend : Stops text (i + 1) operandEnds := hstop.mono (by decide)
  have hkind : this.kind ∉ [Kind.union, .except, .intersect] := by
    intro h
    have hquery : ∀ kind ∈ [Kind.union, .except, .intersect], kind.isQuery = true := by decide
    exact absurd (hquery _ h) (by simp [harg.kind])
  have hquery : (query ⟨false, false, true, true⟩).run text (Construct.read text (d + 3)) i =
      .ok (none, i) :=
    read_query_none ht harg.noQuery (fun answer => run_call_end (hstop.mono (by decide)) answer) _
  have hassignment : assignment.run text (Construct.read text (d + 3)) i = .ok (some this, i + 1) := by
    have hread := harg.read (d := d + 1) ht hend
    refine (run_bind_ok (run_plain hread (hstop.mono (by decide))) _).trans ?_
    exact (run_bind_ok (run_accepts_none _ (hend.any (by decide))) _).trans rfl
  have hcombined : (combinations this).run text (Construct.read text (d + 3)) (i + 1) =
      .ok (this, i + 1) := run_combinations_none hend hkind
  refine (run_bind_ok hquery _).trans ((run_bind_ok hassignment _).trans ?_)
  exact (run_bind_ok (run_pure _ _) _).trans ((run_bind_ok hcombined _).trans rfl)

theorem run_argument {this : Tree} (ht : text[i]? = some t) (harg : IsArgument t this)
    (hstop : Stops text (i + 1) [symbolToken ",", symbolToken ")"]) :
    (argument false).run text (Construct.read text (d + 3)) i = .ok (some this, i + 1) := by
  have hend : Stops text (i + 1) operandEnds := hstop.mono (by decide)
  have hno := harg.noQuery
  have hkeyword : isKeyword "DISTINCT" t = false := by
    simp only [isNoQuery, Bool.and_eq_true] at hno
    exact isKeyword_of_free hno.1.1 (by decide)
  have hopen : isSymbol "(" t = false := by
    simp only [isNoQuery, Bool.and_eq_true, Bool.not_eq_true'] at hno
    by_cases h : t.kind = .symbol <;> simp_all [isSymbol, isNamed]
  have horder : order.run text (Construct.read text (d + 3)) (i + 1) = .ok (none, i + 1) :=
    (run_bind_ok (run_accepts_none _ (hstop.any (by decide))) _).trans rfl
  have hlimit : limit.run text (Construct.read text (d + 3)) (i + 1) = .ok (none, i + 1) := by
    refine (run_bind_ok (run_accepts_none _ (hstop.any (by decide))) _).trans ?_
    exact (run_bind_ok (run_accepts_none _ (hstop.any (by decide))) _).trans rfl
  refine (run_bind_ok (run_lambda_none ht hopen harg.symbol hend) _).trans ?_
  refine (run_bind_ok (run_accepts_none _ (by simp [ht, hkeyword])) _).trans ?_
  refine (run_bind_ok (run_queryOrExpression ht harg hstop) _).trans ?_
  refine (run_bind_ok (run_nullsWords_none hend) _).trans ?_
  refine (run_bind_ok (run_accepts_none _ (hend.any (by decide))) _).trans ?_
  exact (run_bind_ok horder _).trans ((run_bind_ok hlimit _).trans rfl)

theorem run_window_none {answer : {α : Type} → Construct α → Nat → Outcome α} (this : Tree)
    (h : Stops text i operandEnds) : (window this).run text answer i = .ok (this, i) := by
  have hwithin : ∀ u ∈ operandEnds, isWritten "WITHIN" u = false := by decide +kernel
  refine (run_bind_ok (run_phrase_none _ _ (h.any hwithin)) _).trans ?_
  refine (run_bind_ok (run_pure _ _) _).trans ?_
  refine (run_bind_ok (run_pair_none_of_first (h.any (by decide)) _) _).trans ?_
  refine (run_bind_ok (run_pure _ _) _).trans ((run_bind_ok (run_nullsWords_none h) _).trans ?_)
  refine (run_bind_ok (run_pure _ _) _).trans ?_
  exact (run_bind_ok (run_accepts_none _ (h.any (by decide))) _).trans rfl

/-- A function by its name: no expression of its own form, and no structure. -/
structure IsFunction (t : Token) (signature : Signature) : Prop where
  kind : t.kind = .word
  plain : wordExpression? t = none
  special : ∀ inside, specialCall? inside (toUpperText t.text) = none
  signature : knownFunctions.lookup (toUpperText t.text) = some signature
  struct : toUpperText t.text ≠ "STRUCT"

/-- A call with its arguments in parentheses. -/
theorem run_unary_call {signature : Signature} {items : List Tree} (ht : text[i]? = some t)
    (hfunction : IsFunction t signature) (hopen : text[i + 1]? = some (symbolToken "("))
    (hitems : (commaItems (argument false)).run text (Construct.read text (d + 1)) (i + 2) =
      .ok (items, j))
    (hallows : signature.allows items.length = true) (hclose : text[j]? = some (symbolToken ")"))
    (hend : Stops text (j + 1) operandEnds) :
    readUnary.run text (Construct.read text (d + 1)) i =
      .ok (some (.node (.call signature.key) t.text items), j + 1) := by
  have hkind := hfunction.kind
  have harguments : ∀ inside, (arguments inside t true).run text (Construct.read text (d + 1)) (i + 2) =
      .ok (.node (.call signature.key) t.text items, j + 1) := by
    intro inside
    have hquantified : (decide (t.kind = .keyword) && quantifierKeywords.contains t.name) = false := by
      simp [hkind]
    unfold arguments
    simp only [if_true, hfunction.special, hquantified, Bool.false_and, hfunction.signature,
      hfunction.struct, Option.isNone_some, decide_false, Bool.or_false]
    refine (run_bind_ok (run_sees _ _) _).trans ?_
    refine (run_bind_ok hitems _).trans ?_
    simp only [hallows, if_true]
    exact (run_bind_ok (run_needSymbol hclose rfl) _).trans rfl
  have hcall : call.run text (Construct.read text (d + 1)) i =
      .ok (some (.node (.call signature.key) t.text items), j + 1) := by
    refine (run_bind_ok (run_here i) _).trans ?_
    refine (run_bind_ok (run_matchToken_none _ (by simp [ht, hfunction.plain])) _).trans ?_
    refine (run_bind_ok (a := some (.node (.call signature.key) t.text items)) (j := j + 1) ?_ _).trans rfl
    refine (run_bind_ok (run_take _ ht (by simp [isCallToken, hkind, hopen]; rfl)) _).trans ?_
    refine (run_bind_ok (run_needSymbol hopen rfl) _).trans ?_
    exact (run_bind_ok (harguments _) _).trans ((run_bind_ok (run_window_none _ hend) _).trans rfl)
  have hopens : opensOperand t = true := by simp [opensOperand, isSymbol, isKeyword, hkind]
  have htype : typeName? false t = none := by simp [typeName?, isTypeToken, hkind]
  refine run_operand ht hopens (run_typedLiteral_none ht htype) ?_ hend
  have hliteral : startsLiteral t text[i + 1]? = false := by
    simp [startsLiteral, isSymbol, isKeyword, hkind]
  have hfield : (field false).run text (Construct.read text (d + 1)) i =
      .ok (some (.node (.call signature.key) t.text items), j + 1) := by
    refine (run_bind_ok (run_primary_none ht hliteral (by simp [isSymbol, hkind])) _).trans ?_
    exact (run_bind_ok hcall _).trans rfl
  exact (run_bind_ok hfield _).trans rfl

theorem isFunction_of_upper {word : String} {signature : Signature} (hupper : toUpperText word = word)
    (hplain : (wordExpression? (wordToken word)).isNone = true)
    (hspecial : ∀ inside, specialCall? inside word = none)
    (hsignature : knownFunctions.lookup word = some signature) (hstruct : word ≠ "STRUCT") :
    IsFunction (wordToken word) signature where
  kind := rfl
  plain := Option.isNone_iff_eq_none.mp hplain
  special := fun inside => by simpa only [wordToken, hupper] using hspecial inside
  signature := by simpa only [wordToken, hupper] using hsignature
  struct := by simpa only [wordToken, hupper] using hstruct

theorem isFunction_regexp : IsFunction (wordToken "REGEXP_LIKE") ⟨"REGEXPLIKE", 2, some 4⟩ :=
  isFunction_of_upper (by decide +kernel) (by decide +kernel) (fun _ => rfl) rfl (by decide)

theorem isFunction_aggregation (a : Aggregation) :
    ∃ signature, IsFunction (wordToken a.label) signature ∧ signature.key = a.label ∧
      signature.allows 1 = true := by
  cases a <;> exact ⟨_, isFunction_of_upper (by decide +kernel) (by decide +kernel) (fun _ => rfl) rfl
    (by decide), rfl, rfl⟩

/-- A call with single tokens for arguments. -/
theorem run_unary_simple {signature : Signature} (arguments : List (Token × Tree)) (ht : text[i]? = some t)
    (hfunction : IsFunction t signature) (hopen : text[i + 1]? = some (symbolToken "("))
    (hne : arguments ≠ []) (harguments : ∀ x ∈ arguments, IsArgument x.1 x.2)
    (hallows : signature.allows arguments.length = true)
    (h : Stands text (i + 2) (commaTokens (arguments.map fun x => [x.1]) ++ [symbolToken ")"]))
    (hj : j = i + 2 + (commaTokens (arguments.map fun x => [x.1])).length)
    (hend : Stops text (j + 1) operandEnds) :
    readUnary.run text (Construct.read text (d + 3)) i =
      .ok (some (.node (.call signature.key) t.text (arguments.map (·.2))), j + 1) := by
  subst hj
  obtain ⟨hitems, hclose, -⟩ := stands_append.mp h
  have hread := run_commaItems (fun x : Token × Tree => [x.1]) Prod.snd (Construct.read text (d + 3))
    (argument false) [symbolToken ")"] hne
    (fun x hx place hplace hafter => run_argument hplace.1 (harguments x hx) hafter) (by decide) hitems
    (stops_of_get hclose List.mem_cons_self)
  exact run_unary_call ht hfunction hopen hread (by simpa using hallows) hclose hend

end

end QueryGate
