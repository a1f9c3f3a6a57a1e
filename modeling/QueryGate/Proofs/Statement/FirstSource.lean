import QueryGate.Proofs.Statement.Adapted
import QueryGate.Proofs.Statement.Capped
/-! Where the catalog goes. It goes behind the first `FROM` and its space, wherever these five characters stand,
and it leaves the limits of a statement and the line its end is on as they were. -/

namespace QueryGate

/-! The first occurrence of a word. -/

theorem splitAfterLetters_eq_none_iff {word cs : List Char} :
    splitAfterLetters? word cs = none ↔ ¬ Occurs word cs := by
  induction cs with
  | nil =>
    cases word with
    | nil =>
      have hempty : Occurs [] [] := ⟨[], [], [], rfl, .nil⟩
      simp [splitAfterLetters?, hempty]
    | cons w word =>
      have hnone : ¬ Occurs (w :: word) [] := not_occurs_of_no_letter (List.forall_mem_nil _)
      simp [splitAfterLetters?, hnone]
  | cons c cs ih =>
    rw [splitAfterLetters?, occurs_cons_iff]
    cases hhere : afterLetters? word (c :: cs) with
    | some rest => simp
    | none => simp [ih]

/-- The part in front of the cut is the shortest that ends in the word. -/
theorem splitAfterLetters_least {word cs before rest : List Char}
    (h : splitAfterLetters? word cs = some (before, rest)) {front found after : List Char}
    (hcs : cs = front ++ found ++ after) (hfound : List.Forall₂ (fun w c => sameLetter w c = true) word found) :
    before <+: front ++ found := by
  induction cs generalizing before front with
  | nil =>
    obtain ⟨hsplit, -⟩ := splitAfterLetters_spec h
    obtain rfl := (List.append_eq_nil_iff.mp hsplit.symm).1
    exact List.nil_prefix
  | cons c cs ih =>
    cases hhere : afterLetters? word (c :: cs) with
    | some rest' =>
      simp only [splitAfterLetters?, hhere, Option.some.injEq, Prod.mk.injEq] at h
      obtain ⟨rfl, -⟩ := h
      have hfront : front ++ found <+: c :: cs := ⟨after, hcs.symm⟩
      refine List.prefix_of_prefix_length_le (List.take_prefix _ _) hfront ?_
      rw [List.length_append, ← hfound.length_eq]
      exact (List.length_take_le _ _).trans (Nat.le_add_left _ _)
    | none =>
      simp only [splitAfterLetters?, hhere, Option.map_eq_some_iff, Prod.mk.injEq, Prod.exists] at h
      obtain ⟨before', rest', hrest, rfl, rfl⟩ := h
      cases front with
      | nil =>
        have hword : afterLetters? word (c :: cs) = some after :=
          afterLetters_eq_some.mpr ⟨found, by simpa using hcs, hfound⟩
        rw [hhere] at hword
        cases hword
      | cons d front =>
        obtain ⟨rfl, hrest'⟩ := List.cons.inj hcs
        exact List.cons_prefix_cons.mpr ⟨rfl, ih hrest hrest'⟩

/-! The word itself. -/

/-- The forms of the five characters. -/
def fromForms : List (List Char) :=
  [['F', 'f'], ['R', 'r'], ['O', 'o'], ['M', 'm'], [' ']]

/-- `FROM` and a space, in whatever case. -/
def SpellsFrom (found : List Char) : Prop :=
  List.Forall₂ (fun forms c => c ∈ forms) fromForms found

/-- Nothing but a space counts as one. -/
theorem sameLetter_space_iff {c : Char} : sameLetter ' ' c = true ↔ c = ' ' := by
  constructor
  · intro h
    have hfold : foldChar c = ' ' := (sameLetter_iff.mp h).symm
    by_cases hc : c.toNat < 0x80
    · have hall : ∀ n < 0x80, foldChar (Char.ofNat n) = ' ' → Char.ofNat n = ' ' := by decide +kernel
      have hspace := hall c.toNat hc
      rw [Char.ofNat_toNat] at hspace
      exact hspace hfold
    · have hsources : capitalSources ' '.toNat = [] := by decide +kernel
      rcases foldChar_beyond_cases hc (by decide) (by decide) hfold with hsource | hform
      · rw [hsources] at hsource
        cases hsource
      · simp at hform
  · rintro rfl
    decide

theorem spellsFrom_iff {found : List Char} :
    List.Forall₂ (fun w c => sameLetter w c = true) fromWord found ↔ SpellsFrom found := by
  have hcapital : ∀ w ∈ ['F', 'R', 'O', 'M'], ∀ c, sameLetter w c = true ↔ c ∈ [w, w.toLower] := by
    intro w hw c
    have hmem : ∀ w ∈ ['F', 'R', 'O', 'M'], w ∈ capitals ∧ capitalForms w = [w, w.toLower] :=
      forall_mem_of_all (by decide)
    obtain ⟨hcap, hforms⟩ := hmem w hw
    rw [sameLetter_capital_iff hcap, hforms]
  have hword : fromWord = ['F', 'R', 'O', 'M', ' '] := by decide
  rw [hword, SpellsFrom, fromForms]
  simp only [List.forall₂_cons_left_iff, List.forall₂_nil_left_iff, hcapital 'F' (by decide),
    hcapital 'R' (by decide), hcapital 'O' (by decide), hcapital 'M' (by decide), sameLetter_space_iff,
    List.mem_singleton]
  rfl

/-- The text ends in `FROM` and a space. -/
def EndsInFrom (cs : List Char) : Prop :=
  ∃ found, SpellsFrom found ∧ found <:+ cs

theorem occurs_fromWord_iff {cs : List Char} : Occurs fromWord cs ↔ ∃ found, SpellsFrom found ∧ found <:+: cs := by
  constructor
  · rintro ⟨before, found, after, rfl, hfound⟩
    exact ⟨found, spellsFrom_iff.mp hfound, before, after, rfl⟩
  · rintro ⟨found, hfound, before, after, rfl⟩
    exact ⟨before, found, after, rfl, spellsFrom_iff.mpr hfound⟩

/-! The limits of a statement, and its last line. -/

/-- What stands between two spaces or points has its places on its own. -/
theorem exists_standsAt_gap_iff {word a b : List Char} {x : Char} (hword : word ≠ []) (hx : IsGap word x) :
    (∃ i, StandsAt word (a ++ x :: b) i) ↔ (∃ i, StandsAt word a i) ∨ ∃ i, StandsAt word b i := by
  constructor
  · rintro ⟨i, hi⟩
    rcases (standsAt_gap_iff hword hx).mp hi with ha | ⟨j, -, hb⟩
    · exact Or.inl ⟨i, ha⟩
    · exact Or.inr ⟨j, hb⟩
  · rintro (⟨i, hi⟩ | ⟨j, hj⟩)
    · exact ⟨i, hi.append_gap hx b⟩
    · exact ⟨_, hj.gap_append hx a⟩

/-- A text without limits of its own that is put between a space and a point adds none. -/
theorem limits_inserted {a b text : List Char} (htext : ¬ ∃ i, StandsAt limitWord text i) :
    (∃ i, StandsAt limitWord (a ++ ' ' :: (text ++ '.' :: b)) i) ↔ ∃ i, StandsAt limitWord (a ++ ' ' :: b) i := by
  have hspace : IsGap limitWord ' ' := isGap_limit (by decide +kernel)
  have hpoint : IsGap limitWord '.' := isGap_limit (by decide +kernel)
  rw [exists_standsAt_gap_iff limitWord_ne_nil hspace, exists_standsAt_gap_iff limitWord_ne_nil hspace,
    exists_standsAt_gap_iff limitWord_ne_nil hpoint, or_iff_right htext]

theorem lastLine_append_line (a : List Char) {b : List Char} (hb : '\n' ∉ b) : lastLine (a ++ b) = lastLine a ++ b := by
  obtain ⟨front, hsplit, hfront, hline⟩ := lastLine_split a
  have hnone : '\n' ∉ lastLine a ++ b := fun h => (List.mem_append.mp h).elim hline hb
  conv_lhs => rw [hsplit, List.append_assoc]
  exact lastLine_append hfront hnone

theorem lastLine_append_lines (a : List Char) {b : List Char} (hb : '\n' ∈ b) : lastLine (a ++ b) = lastLine b := by
  obtain ⟨front, hsplit, hfront, hline⟩ := lastLine_split b
  have hends : EndsLine (a ++ front) := by
    cases front with
    | nil =>
      rw [hsplit] at hb
      exact absurd hb hline
    | cons c front =>
      have hlast : (a ++ c :: front).getLast? = (c :: front).getLast? :=
        List.getLast?_append_of_ne_nil _ (List.cons_ne_nil c front)
      rwa [EndsLine, hlast]
  conv_lhs => rw [hsplit, ← List.append_assoc]
  exact lastLine_append hends hline

theorem dashes_gap_iff {a b : List Char} {x : Char} (hx : x ≠ '-') :
    ['-', '-'] <:+: a ++ x :: b ↔ ['-', '-'] <:+: a ∨ ['-', '-'] <:+: b := by
  induction a with
  | nil => simp [List.infix_cons_iff, List.cons_prefix_cons, hx.symm]
  | cons c a ih =>
    rw [List.cons_append, List.infix_cons_iff, ih, List.infix_cons_iff, or_assoc]
    refine or_congr_left ?_
    cases a with
    | nil => simp [List.cons_prefix_cons, hx.symm]
    | cons d a => simp [List.cons_prefix_cons]

/-- A text without dashes and line feeds that is put between a space and a point leaves the last line with dashes or
without. -/
theorem dashes_inserted {a b text : List Char} (hline : '\n' ∉ text) (hdashes : ¬ ['-', '-'] <:+: text) :
    hasDashes (lastLine (a ++ ' ' :: (text ++ '.' :: b))) = hasDashes (lastLine (a ++ ' ' :: b)) := by
  by_cases hb : '\n' ∈ b
  · have hfirst := lastLine_append_lines (a ++ ' ' :: (text ++ ['.'])) hb
    have hsecond := lastLine_append_lines (a ++ [' ']) hb
    simp only [List.append_assoc, List.cons_append, List.nil_append] at hfirst hsecond
    rw [hfirst, hsecond]
  · have hfirst : lastLine (a ++ ' ' :: (text ++ '.' :: b)) = lastLine a ++ ' ' :: (text ++ '.' :: b) :=
      lastLine_append_line a (by simp [hline, hb])
    have hsecond : lastLine (a ++ ' ' :: b) = lastLine a ++ ' ' :: b := lastLine_append_line a (by simp [hb])
    rw [hfirst, hsecond, Bool.eq_iff_iff, hasDashes_iff, hasDashes_iff, dashes_gap_iff (by decide),
      dashes_gap_iff (by decide), dashes_gap_iff (by decide), or_iff_right hdashes]

theorem dashes_space (a : List Char) : hasDashes (lastLine (a ++ [' '])) = hasDashes (lastLine a) := by
  rw [lastLine_append_line a (by decide), Bool.eq_iff_iff, hasDashes_iff, hasDashes_iff, dashes_gap_iff (by decide)]
  simp

/-! The statement of a text. -/

/-- A text ends in a character that is part of its statement, whatever blanks and semicolons stand behind it. -/
def EndsInside (cs : List Char) : Prop :=
  cs.getLast?.any (fun c => !isBlank c && c ≠ ';') = true

theorem IsBody.behind {a b rest : List Char} (ha : EndsInside a) (h : IsBody b rest) : IsBody (a ++ b) (a ++ rest) := by
  obtain ⟨htight, closing, rfl, hclosing⟩ := h
  obtain ⟨c, hlast, hc⟩ := (Option.any_eq_true _ _).mp ha
  simp only [Bool.and_eq_true, Bool.not_eq_true', decide_eq_true_eq] at hc
  refine ⟨?_, closing, (List.append_assoc ..).symm, hclosing.imp_left fun h => ⟨h.1, ?_⟩⟩
  · rw [List.getLast?_append]
    cases hrest : rest.getLast? with
    | none => simp [hlast, hc.1]
    | some d => simpa [hrest] using htight
  · rw [List.getLast?_append]
    cases hrest : rest.getLast? with
    | none => simpa [hlast] using hc.2
    | some d => simpa [hrest] using h.2

/-- A space in front is part of the statement only if there is more behind it. -/
theorem IsBody.space {b rest : List Char} (h : IsBody b rest) :
    IsBody (' ' :: b) (if rest = [] then [] else ' ' :: rest) := by
  obtain ⟨htight, closing, rfl, hclosing⟩ := h
  by_cases hrest : rest = []
  · have hspace : isBlank ' ' = true := by decide
    rw [if_pos hrest, hrest]
    refine ⟨rfl, ' ' :: closing, rfl, ?_⟩
    rcases hclosing with ⟨hblank, -⟩ | ⟨front, back, rfl, hfront, hback⟩
    · exact Or.inl ⟨List.forall_mem_cons.mpr ⟨hspace, hblank⟩, by simp⟩
    · exact Or.inr ⟨' ' :: front, back, rfl, List.forall_mem_cons.mpr ⟨hspace, hfront⟩, hback⟩
  · have hlast : (' ' :: rest).getLast? = rest.getLast? := List.getLast?_append_of_ne_nil [' '] hrest
    rw [if_neg hrest]
    exact ⟨hlast ▸ htight, closing, rfl, hlast ▸ hclosing⟩

/-- What is put behind a statement is the same with and without a text between a space and a point in it. -/
theorem tail_inserted {a b text : List Char} (ha : EndsInside a) (hline : '\n' ∉ text)
    (hdashes : ¬ ['-', '-'] <:+: text) (htext : ¬ ∃ i, StandsAt limitWord text i) (cap : Int) :
    ∃ body body', IsBody (a ++ ' ' :: b) body ∧ IsBody (a ++ ' ' :: (text ++ '.' :: b)) body' ∧
      newLine body' = newLine body ∧ limitText body' cap = limitText body cap := by
  obtain ⟨rest, hrest⟩ : ∃ rest, IsBody b rest := ⟨_, statementBody_eq_iff.mp rfl⟩
  have hpoint : EndsInside (a ++ ' ' :: (text ++ ['.'])) := by
    rw [EndsInside, List.getLast?_append]
    simp [List.getLast?_cons, List.getLast?_append, show isBlank '.' = false by decide]
  have hbody := hrest.space.behind ha
  have hbody' := hrest.behind hpoint
  simp only [List.append_assoc, List.cons_append, List.nil_append] at hbody'
  have hlast : hasDashes (lastLine (a ++ ' ' :: (text ++ '.' :: rest))) =
      hasDashes (lastLine (a ++ if rest = [] then [] else ' ' :: rest)) := by
    rw [dashes_inserted hline hdashes]
    by_cases hnil : rest = []
    · rw [if_pos hnil, hnil, List.append_nil, dashes_space]
    · rw [if_neg hnil]
  have hlimit : hasLimit (a ++ ' ' :: (text ++ '.' :: rest)) = hasLimit (a ++ if rest = [] then [] else ' ' :: rest) := by
    rw [Bool.eq_iff_iff, hasLimit_iff, hasLimit_iff]
    simp only [← hbody.limits, ← hbody'.limits]
    exact limits_inserted htext
  refine ⟨_, _, hbody, hbody', ?_, ?_⟩
  · rw [newLine, newLine, hlast]
  · rw [limitText, limitText, hlimit, hlast]

/-! The statement with the catalog and the limit. -/

/-- A limit is appended: what is sent is the statement, a gap, and the limit with its semicolon. -/
def AppendsLimit (sql : String) (cap : Int) : Prop :=
  ∃ body, IsBody sql.toList body ∧ ∃ gap ∈ [' ', '\n'],
    (applyRowCap sql cap).toList = body ++ gap :: (limitClause cap ++ [';'])

theorem appendsLimit_iff {cap : Int} (hcap : 0 < cap) {sql : String} :
    AppendsLimit sql cap ↔ ¬ ∃ i, StandsAt limitWord sql.toList i := by
  have hbody : IsBody sql.toList (statementBody sql.toList) := statementBody_eq_iff.mp rfl
  have hlimits : (∃ i, StandsAt limitWord sql.toList i) ↔ hasLimit (statementBody sql.toList) = true := by
    rw [hasLimit_iff]
    exact exists_congr hbody.limits
  rw [hlimits]
  constructor
  · rintro ⟨body, hsame, gap, -, hout⟩ hlimit
    obtain rfl := statementBody_eq_iff.mpr hsame
    rw [toList_applyRowCap hcap rfl, limitText_eq_nil cap hlimit, List.nil_append] at hout
    have hlength := congrArg List.length (List.append_cancel_left hout)
    have hnew : (newLine (statementBody sql.toList)).length ≤ 1 := by
      unfold newLine
      split <;> simp
    simp [limitClause, limitWord] at hlength
    omega
  · intro hnone
    obtain ⟨gap, hgap, htail⟩ := newLine_limitText cap hnone
    refine ⟨_, hbody, gap, hgap, ?_⟩
    rw [toList_applyRowCap hcap rfl, ← List.append_assoc (newLine _), htail, List.cons_append]

theorem EndsInFrom.eq_append_space {cs : List Char} (h : EndsInFrom cs) : ∃ a, cs = a ++ [' '] ∧ EndsInside a := by
  obtain ⟨found, hfound, front, rfl⟩ := h
  simp only [SpellsFrom, fromForms, List.forall₂_cons_left_iff, List.forall₂_nil_left_iff, List.mem_singleton] at hfound
  obtain ⟨f, -, -, ⟨r, -, -, ⟨o, -, -, ⟨m, -, hm, ⟨space, -, rfl, rfl, rfl⟩, rfl⟩, rfl⟩, rfl⟩, rfl⟩ := hfound
  refine ⟨front ++ [f, r, o, m], by simp, ?_⟩
  have hinside : ∀ m ∈ ['M', 'm'], (!isBlank m && m ≠ ';') = true := forall_mem_of_all (by decide)
  simpa [EndsInside, List.getLast?_append] using hinside m hm

/-- The part of a text up to the first `FROM` and its space, and what is behind it. -/
structure IsFirstFrom (cs before rest : List Char) : Prop where
  split : cs = before ++ rest
  ends : EndsInFrom before
  least : ∀ other, other <+: cs → EndsInFrom other → before <+: other

theorem isFirstFrom_of_split {cs before rest : List Char} (h : splitAfterLetters? fromWord cs = some (before, rest)) :
    IsFirstFrom cs before rest := by
  obtain ⟨hsplit, front, found, hbefore, hfound⟩ := splitAfterLetters_spec h
  refine ⟨hsplit, ⟨found, spellsFrom_iff.mp hfound, front, hbefore.symm⟩, ?_⟩
  rintro other ⟨after, hother⟩ ⟨word, hword, start, rfl⟩
  exact splitAfterLetters_least h hother.symm (spellsFrom_iff.mpr hword)

theorem injectCatalog_cases (catalog sql : String) :
    ((¬ ∃ found, SpellsFrom found ∧ found <:+: sql.toList) ∧ injectCatalog catalog sql = sql) ∨
      ∃ before rest, IsFirstFrom sql.toList before rest ∧
        (injectCatalog catalog sql).toList = before ++ catalog.toList ++ '.' :: rest := by
  unfold injectCatalog
  cases hcut : splitAfterLetters? fromWord sql.toList with
  | none => exact Or.inl ⟨occurs_fromWord_iff.not.mp (splitAfterLetters_eq_none_iff.mp hcut), rfl⟩
  | some parts => exact Or.inr ⟨parts.1, parts.2, isFirstFrom_of_split hcut, String.toList_ofList⟩

/-- Without the five characters a text is left as it is, and else the catalog and a point stand behind the shortest part
of it that ends in them. A catalog on one line without dashes and limits changes nothing in what is put behind the
statement. -/
theorem injectCatalog_spec (catalog sql : String) :
    (injectCatalog catalog sql = sql ↔ ¬ ∃ found, SpellsFrom found ∧ found <:+: sql.toList) ∧
    ((∃ found, SpellsFrom found ∧ found <:+: sql.toList) → ∃ before rest, IsFirstFrom sql.toList before rest ∧
      (injectCatalog catalog sql).toList = before ++ catalog.toList ++ '.' :: rest) ∧
    ('\n' ∉ catalog.toList → ¬ ['-', '-'] <:+: catalog.toList → (¬ ∃ i, StandsAt limitWord catalog.toList i) →
      ∀ cap, 0 < cap → (AppendsLimit (injectCatalog catalog sql) cap ↔ AppendsLimit sql cap) ∧
        ∃ body body' tail, IsBody sql.toList body ∧ (applyRowCap sql cap).toList = body ++ tail ∧
          IsBody (injectCatalog catalog sql).toList body' ∧
          (applyRowCap (injectCatalog catalog sql) cap).toList = body' ++ tail) := by
  have hcases := injectCatalog_cases catalog sql
  refine ⟨⟨?_, ?_⟩, ?_, ?_⟩
  · rintro hsame
    rcases hcases with ⟨hnone, -⟩ | ⟨before, rest, hfirst, hout⟩
    · exact hnone
    · have hlength := congrArg List.length (hfirst.split.symm.trans (hsame ▸ hout))
      simp only [List.length_append, List.length_cons] at hlength
      omega
  · intro hnone
    rcases hcases with ⟨-, hsame⟩ | ⟨before, rest, hfirst, -⟩
    · exact hsame
    · obtain ⟨found, hfound, hends⟩ := hfirst.ends
      have hbefore : before <:+: sql.toList := ⟨[], rest, hfirst.split.symm⟩
      exact absurd ⟨found, hfound, hends.isInfix.trans hbefore⟩ hnone
  · intro hoccurs
    rcases hcases with ⟨hnone, -⟩ | ⟨before, rest, hfirst, hout⟩
    · exact absurd hoccurs hnone
    · exact ⟨before, rest, hfirst, hout⟩
  · intro hline hdashes hlimit cap hcap
    rw [appendsLimit_iff hcap, appendsLimit_iff hcap]
    rcases hcases with ⟨-, hsame⟩ | ⟨before, rest, hfirst, hout⟩
    · obtain ⟨body, hbody⟩ : ∃ body, statementBody sql.toList = body := ⟨_, rfl⟩
      have hspec := statementBody_eq_iff.mp hbody
      have htail := toList_applyRowCap hcap hbody
      rw [hsame]
      exact ⟨Iff.rfl, body, body, _, hspec, htail, hspec, htail⟩
    · obtain ⟨a, rfl, ha⟩ := hfirst.ends.eq_append_space
      have hsql : sql.toList = a ++ ' ' :: rest := by simpa using hfirst.split
      have hinjected : (injectCatalog catalog sql).toList = a ++ ' ' :: (catalog.toList ++ '.' :: rest) := by
        simpa using hout
      obtain ⟨body, body', hbody, hbody', hnew, htext⟩ := tail_inserted (b := rest) ha hline hdashes hlimit cap
      rw [← hsql] at hbody
      rw [← hinjected] at hbody'
      have htail := toList_applyRowCap hcap (statementBody_eq_iff.mpr hbody)
      have htail' := toList_applyRowCap hcap (statementBody_eq_iff.mpr hbody')
      rw [hnew, htext] at htail'
      refine ⟨?_, body, body', _, hbody, htail, hbody', htail'⟩
      rw [hsql, hinjected, limits_inserted hlimit]

theorem injectCatalog_spec_accented :
    (∃ found, SpellsFrom found ∧ found <:+: "SELECT 'ﬃ' from s.t -- x".toList) ∧
    '\n' ∉ "limits".toList ∧ ¬ ['-', '-'] <:+: "limits".toList ∧ (¬ ∃ i, StandsAt limitWord "limits".toList i) ∧
    (0 : Int) < 5 ∧
    (∃ before rest, IsFirstFrom "SELECT 'ﬃ' from s.t -- x".toList before rest ∧
      "SELECT 'ﬃ' from limits.s.t -- x".toList = before ++ "limits".toList ++ '.' :: rest) ∧
    AppendsLimit "SELECT 'ﬃ' from limits.s.t -- x" 5 := by
  have hnone : ∀ cs, hasLimit cs = false → ¬ ∃ i, StandsAt limitWord cs i := by
    intro cs h hlimit
    rw [hasLimit_iff.mpr hlimit] at h
    cases h
  have hfound : ∃ found, SpellsFrom found ∧ found <:+: "SELECT 'ﬃ' from s.t -- x".toList := by
    refine ⟨"from ".toList, ?_, "SELECT 'ﬃ' ".toList, "s.t -- x".toList, by decide⟩
    exact .cons (by decide) (.cons (by decide) (.cons (by decide) (.cons (by decide) (.cons (by decide) .nil))))
  have hline : '\n' ∉ "limits".toList := by decide
  have hdashes : ¬ ['-', '-'] <:+: "limits".toList := by
    rw [← hasDashes_iff]
    decide
  have hlimit := hnone "limits".toList (by decide +kernel)
  have hout : injectCatalog "limits" "SELECT 'ﬃ' from s.t -- x" = "SELECT 'ﬃ' from limits.s.t -- x" := by
    decide +kernel
  obtain ⟨-, hfirst, hcapped⟩ := injectCatalog_spec "limits" "SELECT 'ﬃ' from s.t -- x"
  rw [hout] at hfirst hcapped
  refine ⟨hfound, hline, hdashes, hlimit, by decide, hfirst hfound, ?_⟩
  exact (hcapped hline hdashes hlimit 5 (by decide)).1.mpr
    ((appendsLimit_iff (by decide)).mpr (hnone _ (by decide +kernel)))

end QueryGate
