import QueryGate.Proofs.Query.Shape
import QueryGate.Proofs.Statement.Letter
import QueryGate.Proofs.Statement.Occurrence
import QueryGate.Statement.ReadOnly
/-! What the read-only policy refuses for its words, and what it accepts. -/

namespace QueryGate

/-! When a text is refused for a denied word: just if one of the words, in upper case, is spelled by some
stretch of the text. What the parser makes of the text has no part in it. -/

/-- The text is refused for a word of the list. -/
def IsDenied (denied : List String) (sql : String) : Prop :=
  ∃ r, validate denied sql = .error r ∧ r.failure.kind = .deniedKeyword

theorem Rejection.kind_iff {r : Rejection} :
    r.failure.kind = .deniedKeyword ↔ ∃ word, r = .deniedWord word := by
  cases r <;> simp [Rejection.failure]

theorem judge_ne_deniedWord (trees : List Tree) (word : String) :
    judge trees ≠ .error (.deniedWord word) := by
  intro h
  unfold judge at h
  split at h
  · cases h
  · split at h
    · cases h
    · split at h <;> cases h
  · cases h

theorem validate_eq_deniedWord_iff {denied : List String} (hwords : ∀ word ∈ denied, word ≠ "")
    {sql word : String} :
    validate denied sql = .error (.deniedWord word) ↔ findDenied denied sql = some word := by
  unfold validate
  rw [findDenied_filter hwords]
  cases findDenied denied sql with
  | some found => simp
  | none =>
    cases parseSql sql with
    | error e => simp
    | ok trees => simpa using judge_ne_deniedWord trees word

theorem isDenied_iff_occurs {denied : List String} (hwords : ∀ word ∈ denied, word ≠ "") {sql : String} :
    IsDenied denied sql ↔ ∃ word ∈ denied, Occurs (upperChars word.toList) sql.toList := by
  have hfound : IsDenied denied sql ↔ findDenied denied sql ≠ none := by
    constructor
    · rintro ⟨r, hr, hkind⟩
      obtain ⟨word, rfl⟩ := Rejection.kind_iff.mp hkind
      rw [(validate_eq_deniedWord_iff hwords).mp hr]
      exact Option.some_ne_none word
    · intro h
      obtain ⟨word, hword⟩ := Option.ne_none_iff_exists'.mp h
      exact ⟨.deniedWord word, (validate_eq_deniedWord_iff hwords).mpr hword, rfl⟩
  rw [hfound, ne_eq, findDenied_eq_none_iff]
  push Not
  rfl

/-- A text is refused for a denied word just if a stretch of it spells one of the words in upper case,
each letter by a character that differs from it at most in case. So the order of the list and words that
stand in it twice do not matter, and neither more text on either side nor more words lift a refusal. -/
theorem isDenied_spec {denied : List String} (hwords : ∀ word ∈ denied, word ≠ "") :
    (∀ sql, IsDenied denied sql ↔ ∃ word ∈ denied, ∃ before found after,
      sql.toList = before ++ found ++ after ∧
        List.Forall₂ (fun w c => sameLetter w c = true) (upperChars word.toList) found) ∧
    (∀ w ∈ capitals, ∀ c, sameLetter w c = true ↔ c ∈ capitalForms w) ∧
    (∀ others : List String, (∀ word, word ∈ others ↔ word ∈ denied) →
      ∀ sql, IsDenied others sql ↔ IsDenied denied sql) ∧
    (∀ before sql after, IsDenied denied sql → IsDenied denied (before ++ sql ++ after)) ∧
    ∀ others : List String, (∀ word ∈ others, word ≠ "") → denied ⊆ others →
      ∀ sql, IsDenied denied sql → IsDenied others sql := by
  refine ⟨fun sql => isDenied_iff_occurs hwords, fun w hw c => sameLetter_capital_iff hw, ?_, ?_, ?_⟩
  · intro others hsame sql
    have hothers : ∀ word ∈ others, word ≠ "" := fun word hword => hwords word ((hsame word).mp hword)
    rw [isDenied_iff_occurs hothers, isDenied_iff_occurs hwords]
    exact exists_congr fun word => and_congr_left fun _ => hsame word
  · intro before sql after h
    obtain ⟨word, hword, hoccurs⟩ := (isDenied_iff_occurs hwords).mp h
    refine (isDenied_iff_occurs hwords).mpr ⟨word, hword, ?_⟩
    rw [String.toList_append, String.toList_append]
    exact (hoccurs.append_left before.toList).append_right after.toList
  · intro others hothers hmore sql h
    obtain ⟨word, hword, hoccurs⟩ := (isDenied_iff_occurs hwords).mp h
    exact (isDenied_iff_occurs hothers).mpr ⟨word, hmore hword, hoccurs⟩

/-- The letters that are not plain ones, in a text that ends within a string. -/
theorem isDenied_spec_unfinished :
    (∀ word ∈ ["straße", "kill"], word ≠ "") ∧ IsDenied ["straße", "kill"] "SELECT '\u212a\u0131ll" ∧
      ¬ IsDenied ["straße", "kill"] "SELECT 'straße'" := by
  have hwords : ∀ word ∈ ["straße", "kill"], word ≠ "" := by decide
  have hspelled : List.Forall₂ (fun w c => sameLetter w c = true) (upperChars "kill".toList)
      ['\u212a', '\u0131', 'l', 'l'] :=
    .cons (by decide) (.cons (by decide) (.cons (by decide) (.cons (by decide) .nil)))
  have hclear : findDenied ["straße", "kill"] "SELECT 'straße'" = none := by decide +kernel
  refine ⟨hwords, ((isDenied_spec hwords).1 _).mpr ?_, fun h => ?_⟩
  · exact ⟨"kill", by decide, "SELECT '".toList, _, [], by decide, hspelled⟩
  · obtain ⟨word, hword, hoccurs⟩ := ((isDenied_spec hwords).1 _).mp h
    exact findDenied_eq_none_iff.mp hclear word hword hoccurs

/-! What the read-only policy accepts. A text is accepted if no denied word occurs in it and it is one query
with no writing statement at any depth. Clauses of the query that write are not looked for. -/

/-- A tree is within another if it is the other, or within a part of it. -/
inductive Tree.Within (u : Tree) : Tree → Prop
  | self : Within u u
  | part {part whole : Tree} : part ∈ whole.parts → Within u part → Within u whole

theorem anyKindIn_iff (p : Kind → Bool) (ts : List Tree) :
    anyKindIn p ts = true ↔ ∃ t ∈ ts, t.anyKind p = true := by
  induction ts with
  | nil => simp [anyKindIn]
  | cons t ts ih => simp [anyKindIn, ih]

theorem Tree.anyKind_of_within {p : Kind → Bool} {u t : Tree} (h : u.Within t) (hu : p u.kind = true) :
    t.anyKind p = true := by
  induction h with
  | self =>
    obtain ⟨kind, text, parts⟩ := u
    rw [Tree.anyKind, Bool.or_eq_true]
    exact Or.inl hu
  | @part part whole hpart _ ih =>
    obtain ⟨kind, text, parts⟩ := whole
    rw [Tree.anyKind, Bool.or_eq_true, anyKindIn_iff]
    exact Or.inr ⟨part, hpart, ih⟩

mutual

theorem Tree.exists_within_of_anyKind {p : Kind → Bool} : (t : Tree) → t.anyKind p = true →
    ∃ u : Tree, u.Within t ∧ p u.kind = true
  | .node kind text parts, h => by
    rw [Tree.anyKind, Bool.or_eq_true] at h
    rcases h with h | h
    · exact ⟨.node kind text parts, .self, h⟩
    · obtain ⟨part, hpart, u, hu, hp⟩ := exists_within_of_anyKindIn parts h
      exact ⟨u, .part hpart hu, hp⟩

theorem exists_within_of_anyKindIn {p : Kind → Bool} : (ts : List Tree) → anyKindIn p ts = true →
    ∃ part ∈ ts, ∃ u : Tree, u.Within part ∧ p u.kind = true
  | [], h => by simp [anyKindIn] at h
  | t :: ts, h => by
    rw [anyKindIn, Bool.or_eq_true] at h
    rcases h with h | h
    · exact ⟨t, List.mem_cons_self, Tree.exists_within_of_anyKind t h⟩
    · obtain ⟨part, hpart, hu⟩ := exists_within_of_anyKindIn ts h
      exact ⟨part, List.mem_cons_of_mem t hpart, hu⟩

end

/-- The search of a tree finds a kind just if something of that kind is within the tree. -/
theorem Tree.anyKind_iff {p : Kind → Bool} {t : Tree} :
    t.anyKind p = true ↔ ∃ u : Tree, u.Within t ∧ p u.kind = true :=
  ⟨Tree.exists_within_of_anyKind t, fun ⟨_, hu, hp⟩ => Tree.anyKind_of_within hu hp⟩

/-- The statements that may not stand within a query. -/
def writingActions : List Action :=
  [.insert, .update, .delete, .drop, .create, .merge, .command]

theorem Kind.changesData_iff {k : Kind} : k.changesData = true ↔ ∃ a ∈ writingActions, k = .action a := by
  cases k with
  | action a => cases a <;> decide
  | _ => simp [Kind.changesData]

theorem judge_eq_ok_iff {trees : List Tree} {t : Tree} : judge trees = .ok t ↔
    trees = [t] ∧ t.kind.isQuery = true ∧ t.anyKind Kind.changesData = false := by
  match trees with
  | [] => simp [judge]
  | [u] =>
    by_cases hut : u = t
    · subst hut
      cases hquery : u.kind.isQuery <;> cases hdata : u.anyKind Kind.changesData <;> simp [judge, hquery, hdata]
    · cases hquery : u.kind.isQuery <;> cases hdata : u.anyKind Kind.changesData <;>
        simp [judge, hquery, hdata, hut]
  | u :: v :: rest => simp [judge]

theorem judge_eq_self {u t : Tree} (h : judge [u] = .ok t) : u = t :=
  (List.cons.inj (judge_eq_ok_iff.mp h).1).1

/-- A text is accepted, with its tree, just if no word of the list occurs in it in whatever case, it is one
statement, that is a query, and no statement that writes is within the query. -/
theorem validate_eq_ok_iff {denied : List String} (hwords : ∀ word ∈ denied, word ≠ "") {sql : String}
    {t : Tree} : validate denied sql = .ok t ↔
      (∀ word ∈ denied, ¬ Occurs (upperChars word.toList) sql.toList) ∧ parseSql sql = .ok [t] ∧
        t.kind.isQuery = true ∧ ¬ ∃ u : Tree, u.Within t ∧ ∃ a ∈ writingActions, u.kind = .action a := by
  have hdata : t.anyKind Kind.changesData = false ↔
      ¬ ∃ u : Tree, u.Within t ∧ ∃ a ∈ writingActions, u.kind = .action a := by
    rw [← Bool.not_eq_true, Tree.anyKind_iff]
    simp only [Kind.changesData_iff]
  rw [← findDenied_eq_none_iff, ← hdata]
  unfold validate
  rw [findDenied_filter hwords]
  cases findDenied denied sql with
  | some word => simp
  | none =>
    cases parseSql sql with
    | error e => simp
    | ok trees => simp [judge_eq_ok_iff]

theorem validate_eq_ok_iff_nested :
    let sql := "SELECT (SELECT b) FROM t"
    (∀ word ∈ defaultDenied, word ≠ "") ∧ ∃ t, validate defaultDenied sql = .ok t ∧
      t.kind.isQuery = true ∧ ¬ ∃ u : Tree, u.Within t ∧ ∃ a ∈ writingActions, u.kind = .action a := by
  intro sql
  have hwords : ∀ word ∈ defaultDenied, word ≠ "" := by decide
  have hok : (validate defaultDenied sql).isOk = true := by decide +kernel
  cases h : validate defaultDenied sql with
  | error r =>
    rw [h] at hok
    cases hok
  | ok t =>
    obtain ⟨-, -, hquery, hreads⟩ := (validate_eq_ok_iff hwords).mp h
    exact ⟨hwords, t, rfl, hquery, hreads⟩

/-- A selection into a table is accepted, with the words that are denied by default as without any. -/
theorem validate_ok_into :
    ∃ t u : Tree, validate defaultDenied "SELECT a INTO x FROM t" = .ok t ∧
      validate [] "SELECT a INTO x FROM t" = .ok t ∧ u.Within t ∧ u.kind = .clause .into := by
  have hclear : findDenied defaultDenied "SELECT a INTO x FROM t" = findDenied [] "SELECT a INTO x FROM t" := by
    decide +kernel
  have hsame : validate defaultDenied "SELECT a INTO x FROM t" = validate [] "SELECT a INTO x FROM t" := by
    rw [validate, validate, hclear]
  have hinto : (validate [] "SELECT a INTO x FROM t").toOption.any (·.anyKind (· == .clause .into)) = true := by
    decide +kernel
  cases h : validate [] "SELECT a INTO x FROM t" with
  | error r =>
    rw [h] at hinto
    cases hinto
  | ok t =>
    rw [h] at hinto
    obtain ⟨u, hu, hkind⟩ := Tree.anyKind_iff.mp hinto
    exact ⟨t, u, hsame.trans h, rfl, hu, beq_iff_eq.mp hkind⟩

/-! Statements of a list of tokens. -/

theorem splitStatements_mark {t : Token} (ht : isSymbol ";" t = true) (ts : List Token) :
    splitStatements (t :: ts) = [] :: ((if t.noted then [[t]] else []) ++ splitStatements ts) := by
  rw [splitStatements]
  refine (if_pos ht).trans ?_
  split <;> rfl

theorem splitStatements_other {t : Token} (ht : isSymbol ";" t = false) {ts first : List Token} {others : List (List Token)}
    (h : splitStatements ts = first :: others) : splitStatements (t :: ts) = (t.bare :: first) :: others := by
  rw [splitStatements, h]
  exact if_neg (Bool.not_eq_true _ ▸ ht)

theorem splitStatements_ne_nil (ts : List Token) : splitStatements ts ≠ [] := by
  induction ts with
  | nil => exact List.cons_ne_nil _ _
  | cons t ts ih =>
    cases ht : isSymbol ";" t with
    | true =>
      rw [splitStatements_mark ht]
      exact List.cons_ne_nil _ _
    | false =>
      obtain ⟨first, others, h⟩ := List.exists_cons_of_ne_nil ih
      rw [splitStatements_other ht h]
      exact List.cons_ne_nil _ _

theorem exists_last_statement (ts : List Token) : ∃ front last, splitStatements ts = front ++ [last] :=
  ⟨_, _, (List.dropLast_append_getLast (splitStatements_ne_nil ts)).symm⟩

/-- The last statement of a text goes on with what stands behind the text. -/
theorem splitStatements_append {ts us : List Token} {front others : List (List Token)} {last first : List Token}
    (hts : splitStatements ts = front ++ [last]) (hus : splitStatements us = first :: others) :
    splitStatements (ts ++ us) = front ++ (last ++ first) :: others := by
  induction ts generalizing front last with
  | nil =>
    have hnil : splitStatements [] = [] ++ [[]] := rfl
    obtain ⟨rfl, hlast⟩ := List.append_inj' (hnil.symm.trans hts) rfl
    obtain rfl : [] = last := (List.cons.inj hlast).1
    exact hus
  | cons t ts ih =>
    obtain ⟨front', last', hrest⟩ := exists_last_statement ts
    have hall := ih hrest
    rw [List.cons_append]
    cases ht : isSymbol ";" t with
    | true =>
      rw [splitStatements_mark ht, hrest, ← List.append_assoc, ← List.cons_append] at hts
      obtain ⟨rfl, hlast⟩ := List.append_inj' hts rfl
      obtain rfl : last' = last := (List.cons.inj hlast).1
      rw [splitStatements_mark ht, hall]
      simp
    | false =>
      cases front' with
      | nil =>
        have hone := (splitStatements_other ht hrest).symm.trans hts
        obtain ⟨rfl, hlast⟩ : [] = front ∧ [t.bare :: last'] = [last] := List.append_inj' hone rfl
        obtain rfl := (List.cons.inj hlast).1
        exact splitStatements_other ht hall
      | cons f front' =>
        have hmore := (splitStatements_other ht hrest).symm.trans hts
        change (t.bare :: f) :: front' ++ [last'] = front ++ [last] at hmore
        obtain ⟨rfl, hlast⟩ := List.append_inj' hmore rfl
        obtain rfl : last' = last := (List.cons.inj hlast).1
        exact splitStatements_other ht hall

/-- What the policy says of statements. -/
def judgeStatements (statements : List (List Token)) : Except Rejection Tree :=
  match statements.mapM parseStatement with
  | .error e => .error (.invalid e)
  | .ok found => judge (found.filterMap id)

theorem validate_eq_judgeStatements {denied : List String} {sql : String} (hclear : findDenied denied sql = none)
    {ts : List Token} (htokens : tokenize sql = .ok ts) : validate denied sql = judgeStatements (splitStatements ts) := by
  have hparse : parseSql sql = (splitStatements ts).mapM parseStatement >>= fun found => pure (found.filterMap id) := by
    unfold parseSql
    rw [htokens]
    rfl
  unfold validate judgeStatements
  rw [hclear, hparse]
  cases (splitStatements ts).mapM parseStatement <;> rfl

theorem exists_tree_of_isOk {denied : List String} {sql : String} (h : (validate denied sql).isOk = true) :
    ∃ t, validate denied sql = .ok t := by
  cases hvalidate : validate denied sql with
  | error r =>
    rw [hvalidate] at h
    cases h
  | ok t => exact ⟨t, rfl⟩

theorem tokenize_of_validate {denied : List String} {sql : String} {t : Tree} (h : validate denied sql = .ok t) :
    ∃ ts, tokenize sql = .ok ts := by
  unfold validate parseSql at h
  split at h
  · cases h
  · cases htokens : tokenize sql with
    | error e =>
      rw [htokens] at h
      cases h
    | ok ts => exact ⟨ts, rfl⟩

theorem parseStatement_mark (text : String) (noted : Bool) :
    parseStatement [⟨.symbol, text, ";", noted⟩] = .ok (some (.node (.action .semicolon) "" [])) :=
  rfl

theorem mapM_eq_ok_mem {α β ε : Type} {f : α → Except ε β} {l : List α} {bs : List β} (h : l.mapM f = .ok bs) {a : α}
    (ha : a ∈ l) : ∃ b ∈ bs, f a = .ok b := by
  induction l generalizing bs with
  | nil => cases ha
  | cons x l ih =>
    rw [List.mapM_cons] at h
    cases hx : f x with
    | error e =>
      rw [hx] at h
      cases h
    | ok b =>
      cases hrest : l.mapM f with
      | error e =>
        rw [hx, hrest] at h
        cases h
      | ok cs =>
        rw [hx, hrest] at h
        obtain rfl : b :: cs = bs := Except.ok.inj h
        rcases List.mem_cons.mp ha with rfl | ha
        · exact ⟨b, List.mem_cons_self, hx⟩
        · obtain ⟨c, hc, hac⟩ := ih hrest ha
          exact ⟨c, List.mem_cons_of_mem b hc, hac⟩

/-- No semicolon is a statement of an accepted text. -/
theorem not_mark_of_judgeStatements {statements : List (List Token)} {t : Tree} (h : judgeStatements statements = .ok t)
    {m : Token} (hm : isSymbol ";" m = true) : [m] ∉ statements := by
  intro hmem
  obtain ⟨kind, text, name, noted⟩ := m
  obtain ⟨hkind, hname⟩ := (Bool.and_eq_true _ _).mp hm
  obtain rfl : kind = .symbol := of_decide_eq_true hkind
  obtain rfl : name = ";" := of_decide_eq_true hname
  unfold judgeStatements at h
  split at h
  · cases h
  · rename_i found hfound
    obtain ⟨b, hb, hparse⟩ := mapM_eq_ok_mem hfound hmem
    obtain rfl := Except.ok.inj ((parseStatement_mark text noted).symm.trans hparse)
    obtain ⟨htrees, hquery, -⟩ := judge_eq_ok_iff.mp h
    have hmem : Tree.node (.action .semicolon) "" [] ∈ found.filterMap id := List.mem_filterMap.mpr ⟨_, hb, rfl⟩
    rw [htrees, List.mem_singleton] at hmem
    rw [← hmem] at hquery
    cases hquery

/-- One statement of an accepted text is judged, and so is another one that is put in its place. -/
theorem judgeStatements_replace {front back : List (List Token)} {old new : List Token} {u v t : Tree}
    (hold : parseStatement old = .ok (some u)) (hnew : parseStatement new = .ok (some v))
    (h : judgeStatements (front ++ old :: back) = .ok t) :
    judge [u] = .ok t ∧ judgeStatements (front ++ new :: back) = judge [v] := by
  have hjudge : ∀ {before after}, front.mapM parseStatement = .ok before → back.mapM parseStatement = .ok after →
      ∀ {x w}, parseStatement x = .ok (some w) →
        judgeStatements (front ++ x :: back) = judge (before.filterMap id ++ w :: after.filterMap id) := by
    intro before after hbefore hafter x w hx
    have hfound : (front ++ x :: back).mapM parseStatement = .ok (before ++ some w :: after) := by
      rw [List.mapM_append, List.mapM_cons, hbefore, hafter, hx]
      rfl
    rw [judgeStatements, hfound]
    simp
  cases hfront : front.mapM parseStatement with
  | error e =>
    rw [judgeStatements, List.mapM_append, hfront] at h
    cases h
  | ok before =>
    cases hback : back.mapM parseStatement with
    | error e =>
      rw [judgeStatements, List.mapM_append, List.mapM_cons, hfront, hold, hback] at h
      cases h
    | ok after =>
      rw [hjudge hfront hback hold] at h
      rw [hjudge hfront hback hnew]
      obtain ⟨htrees, -, -⟩ := judge_eq_ok_iff.mp h
      obtain ⟨hbefore, hu, hafter⟩ : before.filterMap id = [] ∧ u = t ∧ after.filterMap id = [] := by
        simpa [List.append_eq_singleton_iff] using htrees
      rw [hbefore, hafter] at h ⊢
      exact ⟨h, rfl⟩

/-- An empty statement at the end does not count. -/
theorem judgeStatements_concat_nil (statements : List (List Token)) :
    judgeStatements (statements ++ [[]]) = judgeStatements statements := by
  have hnil : parseStatement [] = .ok none := rfl
  rw [judgeStatements, List.mapM_append, List.mapM_cons, hnil, List.mapM_nil, judgeStatements]
  cases statements.mapM parseStatement with
  | error e => rfl
  | ok found =>
    change judge ((found ++ [none]).filterMap id) = judge (found.filterMap id)
    simp

/-- What is read at the end of an accepted text has the statements of its tokens. -/
theorem splitStatements_noteLast {us : List Token} {t : Tree}
    (h : judgeStatements (splitStatements (noteLast us).reverse) = .ok t) :
    splitStatements us.reverse = splitStatements (noteLast us).reverse := by
  cases us with
  | nil => rfl
  | cons u us =>
    rw [noteLast, List.reverse_cons] at h ⊢
    rw [List.reverse_cons]
    obtain ⟨front, last, hsplit⟩ := exists_last_statement us.reverse
    cases hu : isSymbol ";" u with
    | true =>
      have hnoted : isSymbol ";" { u with noted := true } = true := hu
      rw [splitStatements_append hsplit (splitStatements_mark hnoted [])] at h
      exact absurd (by simp) (not_mark_of_judgeStatements h hnoted)
    | false =>
      have hnoted : isSymbol ";" { u with noted := true } = false := hu
      have hnil : splitStatements [] = [] :: [] := rfl
      rw [splitStatements_append hsplit (splitStatements_other hnoted hnil),
        splitStatements_append hsplit (splitStatements_other hu hnil)]
      rfl

end QueryGate
