import QueryGate.Proofs.Sql.Run
import QueryGate.Proofs.Query.Spelling
/-! Operands with one of a few tokens behind them, and how an operand is read as an expression where no
operator follows. -/

namespace QueryGate

open Grammar Reading

/-! What stands behind. -/

/-- What may stand where a whole condition ends. -/
def conditionEnds : List Token :=
  [symbolToken ",", symbolToken ")"] ++ ["AS", "FROM", "SELECT", "WHERE", "GROUP BY", "ORDER BY", "ASC",
    "DESC", "LIMIT"].map keywordToken

def equalityEnds : List Token :=
  keywordToken "AND" :: keywordToken "OR" :: conditionEnds

def operandEnds : List Token :=
  ["=", "<>", ">", "<", ">=", "<="].map symbolToken
    ++ ["LIKE", "ILIKE", "IS", "IN", "BETWEEN"].map keywordToken ++ equalityEnds

/-- An operand ends here: no two signs stand together. -/
structure OperandEnd (text : Array Token) (i : Nat) : Prop where
  stops : Stops text i operandEnds
  signs : ∀ name ∈ ["<", ">"],
    text[i]?.any (fun t => isNamed name t && text[i + 1]?.any (isNamed name)) = false

theorem OperandEnd.of_stops {text : Array Token} {i : Nat} {fs : List Token} (h : Stops text i fs)
    (hsub : ∀ t ∈ fs, t ∈ operandEnds)
    (hsigns : ∀ name ∈ ["<", ">"], ∀ t ∈ fs, isNamed name t = false) : OperandEnd text i := by
  refine ⟨h.mono hsub, fun name hname => ?_⟩
  cases ht : text[i]? with
  | none => rfl
  | some t => simp [hsigns name hname t (h t ht)]

section

variable {text : Array Token} {answer : {α : Type} → Construct α → Nat → Outcome α} {i j : Nat}

theorem run_brackets_end (this : Option Tree) (h : Stops text i operandEnds) :
    (brackets this).run text answer i = .ok (this, i) := by
  refine run_loop_stop ?_
  simp (disch := exact h.any (by decide)) only [symbol, run_bind, run_accepts_none, run_pure, Except.bind,
    Bool.false_eq_true, if_false]

theorem run_columnSteps_end (this : Tree) (h : Stops text i operandEnds) :
    (columnSteps this).run text answer i = .ok (this, i) := by
  have hpath : (pathSteps this).run text answer i = .ok (this, i) := by
    refine (run_bind_ok (run_brackets_end _ h) _).trans ((run_bind_ok (run_loop_stop ?_) _).trans rfl)
    simp (disch := exact h.any (by decide)) only [symbol, run_bind, run_accepts_none,
      run_operatorOf_none, run_pure, Except.bind, Bool.false_eq_true, if_false]
  refine (run_bind_ok hpath _).trans (run_loop_stop ?_)
  simp (disch := exact h.any (by decide)) only [symbol, run_bind, run_accepts_none, run_pure, Except.bind,
    Bool.false_eq_true, if_false]

theorem run_zoned_end (this : Option Tree) (h : Stops text i operandEnds) :
    (zoned this).run text answer i = .ok (this, i) := by
  refine run_loop_stop ?_
  cases this with
  | none => rfl
  | some t =>
    have hword : ∀ t ∈ operandEnds, isWritten "AT" t = false := by decide +kernel
    simp (disch := exact h.any hword) only [run_bind, run_phrase_none, run_pure, Except.bind,
      Bool.false_eq_true, if_false]

theorem run_chain_end {operator : Reading (Option String)} {operand : Reading (Option Tree)}
    {this : Option Tree} (hfirst : operand.run text answer i = .ok (this, j))
    (hstop : operator.run text answer j = .ok (none, j)) :
    (chain operator operand).run text answer i = .ok (this, j) := by
  refine (run_bind_ok hfirst _).trans (run_loop_stop ?_)
  exact (run_bind_ok hstop _).trans rfl

/-- An operand with no operator of arithmetic behind it. -/
theorem run_term {this : Option Tree} (h : readUnary.run text answer i = .ok (this, j))
    (hend : Stops text j operandEnds) : readTerm.run text answer i = .ok (this, j) := by
  have hfactor : readFactor.run text answer i = .ok (this, j) := by
    refine (run_bind_ok h _).trans (run_loop_stop ?_)
    simp (disch := exact hend.any (by decide)) only [run_bind, run_here, run_operatorOf_none, run_pure,
      Except.bind]
  exact run_chain_end hfactor (run_operatorOf_none _ (hend.any (by decide)))

/-- An operand with no operator on bits behind it either. -/
theorem run_bitwise {this : Option Tree} (h : readUnary.run text answer i = .ok (this, j))
    (hend : OperandEnd text j) : readBitwise.run text answer i = .ok (this, j) := by
  refine run_chain_end (run_term h hend.stops) ?_
  have hshift : ∀ name ∈ ["<", ">"], (pair name name).run text answer j = .ok (false, j) :=
    fun name hname => run_pair_none (hend.signs name hname)
  refine (run_bind_ok (run_operatorOf_none _ (hend.stops.any (by decide))) _).trans ?_
  refine (run_bind_ok (hshift "<" (by decide)) _).trans ?_
  exact (run_bind_ok (hshift ">" (by decide)) _).trans rfl

theorem run_isTest_none (this : Option Tree) (h : text[i]?.any (isKeyword "IS") = false) :
    (isTest this).run text answer i = .ok (none, i) := by
  refine (run_bind_ok (run_here i) _).trans ?_
  exact (run_bind_ok (run_accepts_none _ h) _).trans rfl

/-- An operand with no test behind it. -/
theorem run_range {this : Option Tree} (h : readUnary.run text answer i = .ok (this, j))
    (hend : OperandEnd text j) (hstop : Stops text j (["=", "<>", ">", "<", ">=", "<="].map symbolToken
      ++ equalityEnds)) : readRange.run text answer i = .ok (this, j) := by
  refine (run_bind_ok (run_bitwise h hend) _).trans ?_
  simp (disch := exact hstop.any (by decide)) only [rangeTest, keyword, seesKeyword, either, onlyIf,
    run_bind, run_accepts_none, run_sees_none, run_operatorOf_none, run_pure, Except.bind,
    Bool.false_eq_true, if_false]
  cases this with
  | none => rfl
  | some t => exact (run_bind_ok (run_isTest_none _ (hstop.any (by decide))) _).trans rfl

/-- A test with no comparison behind it. -/
theorem run_equality {this : Option Tree} (h : readRange.run text answer i = .ok (this, j))
    (hstop : Stops text j equalityEnds) : readEquality.run text answer i = .ok (this, j) :=
  run_chain_end (run_chain_end h (run_operatorOf_none _ (hstop.any (by decide))))
    (run_operatorOf_none _ (hstop.any (by decide)))

/-- A test with no connective behind it. -/
theorem run_disjunction {this : Option Tree} (h : readEquality.run text answer i = .ok (this, j))
    (hstop : Stops text j conditionEnds) : readDisjunction.run text answer i = .ok (this, j) :=
  run_chain_end (run_chain_end h (run_operatorOf_none _ (hstop.any (by decide))))
    (run_operatorOf_none _ (hstop.any (by decide)))

/-- An operand on its own. -/
theorem run_plain {this : Option Tree} (h : readUnary.run text answer i = .ok (this, j))
    (hstop : Stops text j conditionEnds) : readDisjunction.run text answer i = .ok (this, j) := by
  have hend : OperandEnd text j := .of_stops hstop (by decide) (by decide)
  exact run_disjunction (run_equality (run_range h hend (hstop.mono (by decide)))
    (hstop.mono (by decide))) hstop

end

/-! Columns and values. -/

/-- A token that is no keyword, or one that may be a name anywhere. -/
def isFreeToken (t : Token) : Bool :=
  t.kind ≠ .keyword || isFreeKeyword t.name

theorem isKeyword_of_free {t : Token} (h : isFreeToken t = true) {name : String} (hname : isFreeKeyword name = false) :
    isKeyword name t = false := by
  rw [← Bool.not_eq_true]
  intro hkeyword
  obtain ⟨hkind, rfl⟩ : t.kind = .keyword ∧ t.name = name := by simpa [isKeyword] using hkeyword
  simp [isFreeToken, hkind, hname] at h

theorem isOneOf_of_free {t : Token} (h : isFreeToken t = true) {names : List String}
    (hnames : ∀ name ∈ names, isFreeKeyword name = false) : isOneOf names t = false := by
  rw [← Bool.not_eq_true]
  intro hone
  obtain ⟨hkind, hmem⟩ : t.kind = .keyword ∧ t.name ∈ names := by simpa [isOneOf] using hone
  simp [isFreeToken, hkind, hnames _ hmem] at h

/-- A token that is read as a name wherever one may stand. -/
structure IsName (t : Token) : Prop where
  kind : t.kind = .word ∨ t.kind = .quoted ∨ t.kind = .keyword
  free : isFreeToken t = true
  plain : wordExpression? t = none
  values : isWritten "VALUES" t = false

theorem IsName.name_free {t : Token} (h : IsName t) (hkind : t.kind = .keyword) : isFreeKeyword t.name = true := by
  simpa [isFreeToken, hkind] using h.free

theorem isName_writtenToken {name : String} (h : isFreeName name = true) : IsName (writtenToken name) := by
  have hne : toUpperText name ≠ "VALUES" := by
    simp only [isFreeName, Bool.and_eq_true, decide_eq_true_eq] at h
    exact h.1
  by_cases hbare : isBareName name.toList = true
  · obtain ⟨-, hkeyword, hplain⟩ := isFreeName_of_bare h hbare
    rw [writtenToken, if_pos hbare, wordLexeme]
    cases hk : keywordName? (toUpperText name) with
    | none => exact ⟨.inl rfl, rfl, hplain, by simp [isWritten, wordToken, hne]⟩
    | some k =>
      exact ⟨.inr (.inr rfl), by simp [isFreeToken, hkeyword k hk], by simpa [wordExpression?, wordToken] using hplain,
        by simp [isWritten, hne]⟩
  · rw [writtenToken, if_neg hbare]
    exact ⟨.inr (.inl rfl), rfl, rfl, by simp [isWritten, hne]⟩

theorem IsName.isSymbol_eq_false {t : Token} (h : IsName t) (name : String) : isSymbol name t = false := by
  rcases h.kind with hk | hk | hk <;> simp [isSymbol, hk]

theorem IsName.isNameToken {t : Token} (h : IsName t) : t.kind = .quoted ∨ isNameToken t = true := by
  rcases h.kind with hk | hk | hk
  · exact .inr (by simp [QueryGate.isNameToken, hk])
  · exact .inl hk
  · have hname : nameKeywords.contains t.name = true := ((Bool.and_eq_true _ _).mp (h.name_free hk)).1
    exact .inr (by simpa [QueryGate.isNameToken, hk] using hname)

/-- A token that is no sign in front of an operand. -/
def opensOperand (t : Token) : Bool :=
  !isSymbol "+" t && !isKeyword "NOT" t && !isSymbol "~" t && !isSymbol "-" t && !isKeyword "INTERVAL" t

theorem IsName.opensOperand {t : Token} (h : IsName t) : opensOperand t = true := by
  have hkeywords : ∀ name ∈ ["NOT", "INTERVAL"], isFreeKeyword name = false := by decide
  simp [QueryGate.opensOperand, h.isSymbol_eq_false, isKeyword_of_free h.free, hkeywords]

/-- A name may be that of a type too, but of none with others inside. -/
theorem IsName.typeName {t : Token} (h : IsName t) {name : String} (hname : typeName? false t = some name) :
    nestedTypes.contains name = false ∧ name ≠ "INTERVAL" := by
  have htaken : ∀ k ∈ "INTERVAL" :: nestedTypes, isFreeKeyword k = false := by decide
  have htype : isTypeToken t = true ∧ t.name = name := by
    simpa [typeName?] using hname
  obtain ⟨hkind, rfl⟩ := htype
  have hfree : isFreeKeyword t.name = true := h.name_free (by
    simp only [isTypeToken, Bool.and_eq_true, decide_eq_true_eq] at hkind
    exact hkind.1)
  have hopen : t.name ∉ "INTERVAL" :: nestedTypes := fun hmem => by
    exact absurd (htaken _ hmem) (by simp [hfree])
  obtain ⟨hinterval, hnested⟩ := List.ne_and_not_mem_of_not_mem_cons hopen
  exact ⟨by simpa using hnested, hinterval⟩

section

variable {text : Array Token} {i d : Nat} {t : Token} (ht : text[i]? = some t)

include ht

theorem run_typedLiteral_none (h : typeName? false t = none) :
    typedLiteral.run text (Construct.read text (d + 1)) i = .ok (none, i) := by
  have hname : (typeName false).run text (Construct.read text d) i = .ok (none, i) :=
    run_bind_ok (run_matchToken_none _ (by simp [ht, h])) _
  have htype : (type true false).run text (Construct.read text (d + 1)) i = .ok (none, i) :=
    (run_bind_ok (run_here i) _).trans ((run_bind_ok hname _).trans rfl)
  exact (run_bind_ok (run_here i) _).trans ((run_bind_ok htype _).trans rfl)

omit ht in
theorem run_primary_end (h : Stops text i operandEnds) {answer : {α : Type} → Construct α → Nat → Outcome α} :
    readPrimary.run text answer i = .ok (none, i) := by
  have hliteral : ∀ u ∈ operandEnds, ∀ next, startsLiteral u next = false := by
    simp [operandEnds, equalityEnds, conditionEnds, startsLiteral, symbolToken, keywordToken, isSymbol,
      isKeyword]
  refine (run_bind_ok (run_take_none _ (h.any fun u hu => hliteral u hu _)) _).trans ?_
  exact (run_bind_ok (run_accepts_none _ (h.any (by decide))) _).trans rfl

omit ht in
theorem run_zoneWords_none (h : Stops text i operandEnds) {answer : {α : Type} → Construct α → Nat → Outcome α} :
    zoneWords.run text answer i = .ok (false, i) := by
  have hwords : ∀ u ∈ operandEnds, isWritten "WITH" u = false ∧ isWritten "WITHOUT" u = false := by decide +kernel
  have hwith : text[i]?.any (isWritten "WITH") = false := h.any fun u hu => (hwords u hu).1
  refine (run_bind_ok (run_phrase_none _ _ hwith) _).trans ?_
  refine (run_bind_ok (run_phrase_none _ _ hwith) _).trans ?_
  exact run_phrase_none _ _ (h.any fun u hu => (hwords u hu).2)

/-- A type by its name alone. -/
theorem run_type_plain {name : String} (hname : typeName? false t = some name)
    (hplain : nestedTypes.contains name = false ∧ name ≠ "INTERVAL") (hend : Stops text (i + 1) operandEnds) :
    (type true false).run text (Construct.read text (d + 1)) i = .ok (some (.node .type name []), i + 1) := by
  have hread : (typeName false).run text (Construct.read text d) i = .ok (some name, i + 1) :=
    (run_bind_ok (run_matchToken _ ht (by simp [hname])) _).trans (by rw [Option.bind_some, hname]; rfl)
  have hsuffix : (arraySuffix (.node .type name [])).run text (Construct.read text d) (i + 1) =
      .ok (.node .type name [], i + 1) := by
    refine run_loop_stop ?_
    exact (run_bind_ok (run_pair_none_of_first (hend.any (by decide)) _) _).trans rfl
  refine (run_bind_ok (run_here i) _).trans ((run_bind_ok hread _).trans ?_)
  simp only [hplain.1, hplain.2, Bool.and_false, if_false, onlyIf, Bool.false_eq_true]
  refine (run_bind_ok (run_accepts_none _ (hend.any (by decide))) _).trans ?_
  refine (run_bind_ok (run_pure _ _) _).trans ?_
  refine (run_bind_ok (run_pure false _) _).trans ?_
  refine (run_bind_ok (run_pure [] _) _).trans ?_
  have hrest : ∀ {zoned : Bool}, (do
      if (false && true && !zoned && !(← sees (fun u => u.kind = TokenKind.text))) then
        back i
        return none
      else return some (← arraySuffix (.node .type name []))).run text (Construct.read text d) (i + 1) =
        .ok (some (.node .type name []), i + 1) :=
    (run_bind_ok (run_sees _ _) _).trans ((run_bind_ok hsuffix _).trans rfl)
  split
  · exact (run_bind_ok (run_zoneWords_none hend) _).trans hrest
  · exact (run_bind_ok (run_pure false _) _).trans hrest

/-- A type that no value follows is no literal. -/
theorem run_typedLiteral_type {name : String} (hname : typeName? false t = some name)
    (hplain : nestedTypes.contains name = false ∧ name ≠ "INTERVAL") (hend : Stops text (i + 1) operandEnds) :
    typedLiteral.run text (Construct.read text (d + 1)) i = .ok (none, i) := by
  refine (run_bind_ok (run_here i) _).trans ((run_bind_ok (run_type_plain ht hname hplain hend) _).trans ?_)
  refine (run_bind_ok (run_here _) _).trans ((run_bind_ok (run_primary_end hend) _).trans ?_)
  simp only [Tree.parts, List.isEmpty_nil, Bool.not_true, Bool.and_false, Bool.false_eq_true, if_false]
  exact (run_bind_ok (run_back i (i + 1)) _).trans (by rw [Nat.min_eq_left (Nat.le_succ i)]; rfl)

theorem IsName.run_typedLiteral (hname : IsName t) (hend : Stops text (i + 1) operandEnds) :
    typedLiteral.run text (Construct.read text (d + 1)) i = .ok (none, i) := by
  cases htype : typeName? false t with
  | none => exact run_typedLiteral_none ht htype
  | some name => exact run_typedLiteral_type ht htype (hname.typeName htype) hend

variable {answer : {α : Type} → Construct α → Nat → Outcome α}

theorem run_interval_none (h : isKeyword "INTERVAL" t = false) :
    (readInterval true).run text answer i = .ok (none, i) := by
  have hword : (either (return !true) (keyword "INTERVAL")).run text answer i = .ok (false, i) :=
    (run_bind_ok (run_pure _ _) _).trans (run_accepts_none _ (by simp [ht, h]))
  exact (run_bind_ok (run_here i) _).trans ((run_bind_ok hword _).trans rfl)

theorem run_primary_none (h : startsLiteral t text[i + 1]? = false) (hopen : isSymbol "(" t = false) :
    readPrimary.run text answer i = .ok (none, i) := by
  refine (run_bind_ok (run_take_none _ (by simp [ht, h])) _).trans ?_
  exact (run_bind_ok (run_accepts_none _ (by simp [ht, hopen])) _).trans rfl

/-- A name that no parenthesis follows is no call. -/
theorem run_call_none (hname : IsName t) (hopen : text[i + 1]?.any (isSymbol "(") = false) :
    call.run text answer i = .ok (none, i) := by
  have hclock : isClockToken t = false :=
    isOneOf_of_free hname.free (by decide : ∀ k ∈ clockKeywords, isFreeKeyword k = false)
  refine (run_bind_ok (run_here i) _).trans ?_
  refine (run_bind_ok (run_matchToken_none _ (by simp [ht, hname.plain])) _).trans ?_
  have hcall : (parenthesised (callWith true false true (return none)) false true).run text answer i
      = .ok (none, i) :=
    (run_bind_ok (run_take_none _ (by simp [ht, hopen])) _).trans rfl
  refine (run_bind_ok hcall _).trans ?_
  exact (run_bind_ok (run_matchToken_none _ (by simp [ht, hclock])) _).trans rfl

theorem run_nameWhere (hname : IsName t) {any : Bool} {p : Token → Bool}
    (hp : isNameToken t = true → (any && !isReservedToken t || p t) = true) :
    (nameWhere any p).run text answer i = .ok (some (identifierOf t), i + 1) := by
  rcases hname.isNameToken with h | h
  · have hquoted : quotedName.run text answer i = .ok (some (identifierOf t), i + 1) :=
      run_bind_ok (run_matchToken _ ht (by simp [h])) _
    exact (run_bind_ok hquoted _).trans rfl
  · have hkind : t.kind ≠ .quoted := by
      intro hk
      exact absurd h (by simp [isNameToken, hk])
    have hquoted : quotedName.run text answer i = .ok (none, i) := by
      refine (run_bind_ok (run_matchToken_none _ (by simp [ht, hkind])) _).trans ?_
      refine (run_bind_ok (run_accepts_none _ (by simp [ht, hname.isSymbol_eq_false])) _).trans ?_
      refine (run_bind_ok (run_take_none _ (by simp [ht, hname.isSymbol_eq_false])) _).trans ?_
      exact (run_bind_ok (run_accepts_none _ (by simp [ht, hname.isSymbol_eq_false])) _).trans rfl
    refine (run_bind_ok hquoted _).trans ?_
    exact (run_bind_ok (run_matchToken _ ht (hp h)) _).trans rfl

theorem run_name (hname : IsName t) : name.run text answer i = .ok (some (identifierOf t), i + 1) :=
  run_nameWhere ht hname fun h => by simp [h]

/-- What stands for a column or a value is an operand where it ends. -/
theorem run_operand {this : Tree} (hopens : opensOperand t = true)
    (htyped : typedLiteral.run text answer i = .ok (none, i))
    (hread : columnReference.run text answer i = .ok (some this, j))
    (hend : Stops text j operandEnds) : readUnary.run text answer i = .ok (some this, j) := by
  simp only [QueryGate.opensOperand, Bool.and_eq_true, Bool.not_eq_true'] at hopens
  obtain ⟨⟨⟨⟨hplus, hnot⟩, htilde⟩, hminus⟩, hinterval⟩ := hopens
  have hcolumn : readColumn.run text answer i = .ok (some this, j) := by
    refine (run_bind_ok hread _).trans ?_
    exact (run_bind_ok (run_columnSteps_end _ hend) _).trans rfl
  have hoperand : readOperand.run text answer i = .ok (some this, j) := by
    refine (run_bind_ok (run_interval_none ht hinterval) _).trans ?_
    exact (run_bind_ok htyped _).trans ((run_bind_ok hcolumn _).trans rfl)
  refine (run_bind_ok (run_accepts_none _ (by simp [ht, hplus])) _).trans ?_
  refine (run_bind_ok (run_accepts_none _ (by simp [ht, hnot])) _).trans ?_
  refine (run_bind_ok (run_accepts_none _ (by simp [ht, htilde])) _).trans ?_
  refine (run_bind_ok (run_accepts_none _ (by simp [ht, hminus])) _).trans ?_
  exact (run_bind_ok hoperand _).trans (run_zoned_end _ hend)

theorem run_unary_name (hname : IsName t) (hend : Stops text (i + 1) operandEnds) :
    readUnary.run text (Construct.read text (d + 1)) i =
      .ok (some (.node .column "" [identifierOf t]), i + 1) := by
  have hliteral : startsLiteral t text[i + 1]? = false := by
    have hwords : ∀ name ∈ ["NULL", "TRUE", "FALSE"], isFreeKeyword name = false := by decide
    have hkinds : t.kind ≠ .text ∧ t.kind ≠ .marked ∧ t.kind ≠ .number := by
      rcases hname.kind with h | h | h <;> simp [h]
    simp [startsLiteral, hkinds, hname.isSymbol_eq_false, isKeyword_of_free hname.free, hwords]
  refine run_operand ht hname.opensOperand (hname.run_typedLiteral ht hend) ?_ hend
  have hfield : (field false).run text (Construct.read text (d + 1)) i =
      .ok (some (identifierOf t), i + 1) := by
    refine (run_bind_ok (run_primary_none ht hliteral (hname.isSymbol_eq_false _)) _).trans ?_
    refine (run_bind_ok (run_call_none ht hname (hend.any (by decide))) _).trans ?_
    exact (run_bind_ok (run_name ht hname) _).trans rfl
  exact (run_bind_ok hfield _).trans rfl

/-- A literal that stands for itself. -/
theorem run_unary_literal {this : Tree} (hopens : opensOperand t = true)
    (htyped : typedLiteral.run text answer i = .ok (none, i))
    (hread : readPrimary.run text answer i = .ok (some this, j)) (hcolumn : asColumn this = this)
    (hend : Stops text j operandEnds) : readUnary.run text answer i = .ok (some this, j) := by
  refine run_operand ht hopens htyped ?_ hend
  have hfield : (field false).run text answer i = .ok (some this, j) := (run_bind_ok hread _).trans rfl
  exact (run_bind_ok hfield _).trans (by simp only [hcolumn, run_pure])

theorem run_unary_text (hkind : t.kind = .text) (hend : Stops text (i + 1) operandEnds) :
    readUnary.run text (Construct.read text (d + 1)) i = .ok (some (stringTree t.text), i + 1) := by
  have hopens : opensOperand t = true := by simp [opensOperand, isSymbol, isKeyword, hkind]
  have htype : typeName? false t = none := by simp [typeName?, isTypeToken, hkind]
  refine run_unary_literal ht hopens (run_typedLiteral_none ht htype) ?_ rfl hend
  refine (run_bind_ok (run_take _ ht (by simp [startsLiteral, hkind])) _).trans ?_
  have hmore : (many textLiteral).run text (Construct.read text (d + 1)) (i + 1) = .ok ([], i + 1) := by
    refine run_loop_stop ?_
    have hone : textLiteral.run text (Construct.read text (d + 1)) (i + 1) = .ok (none, i + 1) :=
      run_bind_ok (run_matchToken_none _ (hend.any (by decide))) _
    exact (run_bind_ok hone _).trans rfl
  simp only [hkind, if_true]
  exact (run_bind_ok ((run_bind_ok hmore _).trans rfl) _).trans rfl

theorem run_unary_number (hkind : t.kind = .number) (hend : Stops text (i + 1) operandEnds) :
    readUnary.run text (Construct.read text (d + 1)) i =
      .ok (some (.node .number t.text []), i + 1) := by
  have hopens : opensOperand t = true := by simp [opensOperand, isSymbol, isKeyword, hkind]
  have htype : typeName? false t = none := by simp [typeName?, isTypeToken, hkind]
  refine run_unary_literal ht hopens (run_typedLiteral_none ht htype) ?_ rfl hend
  refine (run_bind_ok (run_take _ ht (by simp [startsLiteral, hkind])) _).trans ?_
  simp only [hkind, if_true, reduceCtorEq, if_false]
  rfl

theorem run_unary_star (hstar : t = symbolToken "*") (hend : Stops text (i + 1) operandEnds) :
    readUnary.run text (Construct.read text (d + 1)) i = .ok (some (.node .star "" []), i + 1) := by
  subst hstar
  refine run_unary_literal ht (by decide) (run_typedLiteral_none ht (by decide)) ?_ rfl hend
  refine (run_bind_ok (run_take _ ht rfl) _).trans ?_
  have hwords : ∀ u ∈ operandEnds, ["EXCEPT", "EXCLUDE", "REPLACE", "RENAME"].any
      (fun w => isWritten w u) = false := by decide +kernel
  have hoptions : starOptions.run text (Construct.read text (d + 1)) (i + 1) = .ok ([], i + 1) :=
    run_loop_stop ((run_bind_ok (run_matchToken_none _ (hend.any hwords)) _).trans rfl)
  exact (run_bind_ok hoptions _).trans rfl

/-- The word `NULL` is also the name of a type, but no value stands behind it. -/
theorem run_unary_null (hnull : t = keywordToken "NULL") (hend : Stops text (i + 1) operandEnds) :
    readUnary.run text (Construct.read text (d + 1)) i = .ok (some (.node .null "" []), i + 1) := by
  subst hnull
  have htyped : typedLiteral.run text (Construct.read text (d + 1)) i = .ok (none, i) :=
    run_typedLiteral_type ht (show typeName? false (keywordToken "NULL") = some "NULL" from rfl) (by decide) hend
  refine run_unary_literal ht (by decide) htyped ?_ rfl hend
  exact (run_bind_ok (run_take _ ht rfl) _).trans rfl

end

end QueryGate
