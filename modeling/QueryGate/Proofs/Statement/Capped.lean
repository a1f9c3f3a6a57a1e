import QueryGate.Proofs.Sql.Lexing
import QueryGate.Proofs.Statement.Place
import QueryGate.Proofs.Statement.Letter
import QueryGate.Proofs.Text.Spacing
/-! Capping a statement keeps the statement and its limits. A limit is put behind it only if it has none,
what is put behind it is on no line with dashes, and a text that was capped once stays as it is. -/

namespace QueryGate

/-- The statement of a text: blanks at the end are left out, and one semicolon among them if the statement
would end with it. -/
def IsBody (cs body : List Char) : Prop :=
  body.getLast?.any isBlank = false ∧ ∃ closing, cs = body ++ closing ∧
    (((∀ c ∈ closing, isBlank c = true) ∧ body.getLast? ≠ some ';') ∨
      ∃ front back, closing = front ++ ';' :: back ∧ (∀ c ∈ front, isBlank c = true) ∧
        ∀ c ∈ back, isBlank c = true)

theorem statementBody_eq_iff {cs body : List Char} : statementBody cs = body ↔ IsBody cs body := by
  have hsemi : isBlank ';' = false := by decide
  constructor
  · intro h
    obtain ⟨back, hcs, hback, hlast⟩ := trimEndOf_eq_iff.mp (rfl : trimEndBlanks cs = trimEndBlanks cs)
    unfold statementBody at h
    dsimp only at h
    by_cases hend : (trimEndBlanks cs).getLast? = some ';'
    · rw [if_pos hend] at h
      obtain ⟨whole, hwhole⟩ := List.getLast?_eq_some_iff.mp hend
      rw [hwhole, List.dropLast_concat] at h
      obtain ⟨front, rfl, hfront, htight⟩ := trimEndOf_eq_iff.mp h
      refine ⟨htight, front ++ ';' :: back, ?_, Or.inr ⟨front, back, rfl, hfront, hback⟩⟩
      rw [hcs, hwhole]
      simp
    · rw [if_neg hend] at h
      subst h
      exact ⟨hlast, back, hcs, Or.inl ⟨hback, hend⟩⟩
  · rintro ⟨htight, closing, rfl, hclosing⟩
    unfold statementBody
    dsimp only
    rcases hclosing with ⟨hclosing, hend⟩ | ⟨front, back, rfl, hfront, hback⟩
    · have htrim : trimEndBlanks (body ++ closing) = body :=
        trimEndOf_eq_iff.mpr ⟨closing, rfl, hclosing, htight⟩
      rw [htrim, if_neg hend]
    · have htrim : trimEndBlanks (body ++ (front ++ ';' :: back)) = body ++ front ++ [';'] :=
        trimEndOf_eq_iff.mpr ⟨back, by simp, hback, by simp [hsemi]⟩
      rw [htrim, if_pos (by simp), List.dropLast_concat]
      exact trimEndOf_eq_iff.mpr ⟨front, rfl, hfront, htight⟩

/-! The limits of a text. -/

theorem isGap_limit {x : Char} (hx : isWordChar x = false) : IsGap limitWord x := by
  have hletters : ∀ w ∈ limitWord, w ∈ capitals := forall_mem_of_all (by decide)
  have hforms : ∀ w ∈ limitWord, ∀ c ∈ capitalForms w, isWordChar c = true :=
    forall_mem_mem_of_all (by decide +kernel)
  refine ⟨hx, fun w hw => Bool.eq_false_iff.mpr fun h => ?_⟩
  have hword := hforms w hw x ((sameLetter_capital_iff (hletters w hw)).mp h)
  rw [hx] at hword
  cases hword

theorem limitWord_ne_nil : limitWord ≠ [] := by decide

theorem isGap_limit_of_isBlank {x : Char} (hx : isBlank x = true) : IsGap limitWord x := by
  refine isGap_limit (Bool.eq_false_iff.mpr fun hword => ?_)
  rw [isBlank_of_isWordChar hword] at hx
  cases hx

theorem isGap_limit_semicolon : IsGap limitWord ';' :=
  isGap_limit (by decide +kernel)

theorem hasLimit_iff {cs : List Char} : hasLimit cs = true ↔ ∃ i, StandsAt limitWord cs i := by
  simpa [hasLimit] using hasWordFrom_iff limitWord_ne_nil []

/-- A text has its limits where its statement has them. -/
theorem IsBody.limits {cs body : List Char} (h : IsBody cs body) (i : Nat) :
    StandsAt limitWord cs i ↔ StandsAt limitWord body i := by
  obtain ⟨-, closing, rfl, hclosing⟩ := h
  refine standsAt_gaps_iff limitWord_ne_nil fun x hx => ?_
  rcases hclosing with ⟨hclosing, -⟩ | ⟨front, back, rfl, hfront, hback⟩
  · exact isGap_limit_of_isBlank (hclosing x hx)
  · rcases List.mem_append.mp hx with hx | hx
    · exact isGap_limit_of_isBlank (hfront x hx)
    · rcases List.mem_cons.mp hx with rfl | hx
      · exact isGap_limit_semicolon
      · exact isGap_limit_of_isBlank (hback x hx)

/-! What is put behind a statement. -/

/-- A limit without the semicolon. -/
def limitClause (cap : Int) : List Char :=
  limitWord ++ ' ' :: (intText cap).toList

/-- What is put between a statement, or the new line behind it, and the semicolon. -/
def limitText (body : List Char) (cap : Int) : List Char :=
  if hasLimit body then []
  else (if hasDashes (lastLine body) then [] else [' ']) ++ limitClause cap

theorem toList_applyRowCap {cap : Int} (hcap : 0 < cap) {sql : String} {body : List Char}
    (hbody : statementBody sql.toList = body) :
    (applyRowCap sql cap).toList = body ++ (newLine body ++ (limitText body cap ++ [';'])) := by
  rw [applyRowCap, if_neg (by omega)]
  dsimp only
  rw [String.toList_ofList, hbody, newLine, limitText]
  by_cases hlimit : hasLimit body = true
  · by_cases hdashes : hasDashes (lastLine body) = true
    · rw [if_pos hlimit, if_pos hlimit, if_pos hdashes, if_pos hdashes]
      rfl
    · rw [if_pos hlimit, if_pos hlimit, if_neg hdashes, if_neg hdashes]
      rfl
  · by_cases hdashes : hasDashes (lastLine body) = true <;>
      simp [hlimit, hdashes, limitClause, limitWord]

theorem isDigit_of_mem_intText {cap : Int} (hcap : 0 < cap) {c : Char} (hc : c ∈ (intText cap).toList) :
    c.isDigit = true := by
  rw [intText, if_neg (by omega), digitsText, String.toList_ofList] at hc
  exact Nat.isDigit_of_mem_toDigits (by decide) (by decide) hc

theorem intText_ne_nil {cap : Int} (hcap : 0 < cap) : (intText cap).toList ≠ [] := by
  rw [intText, if_neg (by omega), digitsText, String.toList_ofList]
  exact Nat.toDigits_ne_nil

theorem isCalm_limitText {cap : Int} (hcap : 0 < cap) (body : List Char) :
    IsCalm (limitText body cap ++ [';']) := by
  have hword : ∀ c ∈ limitWord, c ≠ '\n' ∧ c ≠ '-' := forall_mem_of_all (by decide)
  have hdigit : ∀ c ∈ (intText cap).toList, c ≠ '\n' ∧ c ≠ '-' := by
    intro c hc
    have hdigit := isDigit_of_mem_intText hcap hc
    constructor <;> rintro rfl <;> cases hdigit
  have hclause : IsCalm (limitClause cap) := by
    intro c hc
    rcases List.mem_append.mp hc with hc | hc
    · exact hword c hc
    · rcases List.mem_cons.mp hc with rfl | hc
      · decide
      · exact hdigit c hc
  intro c hc
  rcases List.mem_append.mp hc with hc | hc
  · unfold limitText at hc
    split at hc
    · cases hc
    · split at hc
      · exact hclause c hc
      · rcases List.mem_cons.mp hc with rfl | hc
        · decide
        · exact hclause c hc
  · obtain rfl := List.mem_singleton.mp hc
    decide

theorem getLast?_limitClause {cap : Int} (hcap : 0 < cap) :
    ∃ c, (limitClause cap).getLast? = some c ∧ c.isDigit = true := by
  have hne := intText_ne_nil hcap
  refine ⟨(intText cap).toList.getLast hne, ?_, isDigit_of_mem_intText hcap (List.getLast_mem hne)⟩
  rw [limitClause, List.append_cons, List.getLast?_append_of_ne_nil _ hne, List.getLast?_eq_some_getLast hne]

theorem standsAt_limitClause {cap : Int} (hcap : 0 < cap) (i : Nat) :
    StandsAt limitWord (limitClause cap ++ [';']) i ↔ i = 0 := by
  have hspace : IsGap limitWord ' ' := isGap_limit (by decide +kernel)
  have hrest : ∀ j, ¬ StandsAt limitWord ((intText cap).toList ++ [';']) j := by
    intro j
    refine not_standsAt_of_no_letter fun c hc => ?_
    have hforms : ∀ c ∈ capitalForms 'L', c.isDigit = false := forall_mem_of_all (by decide)
    rcases List.mem_append.mp hc with hc | hc
    · refine Bool.eq_false_iff.mpr fun h => ?_
      have hform := hforms c ((sameLetter_capital_iff (by decide)).mp h)
      rw [isDigit_of_mem_intText hcap hc] at hform
      cases hform
    · obtain rfl := List.mem_singleton.mp hc
      decide
  have hsplit : limitClause cap ++ [';'] = limitWord ++ ' ' :: ((intText cap).toList ++ [';']) := by
    simp [limitClause]
  rw [hsplit, standsAt_gap_iff limitWord_ne_nil hspace]
  constructor
  · rintro (⟨before, found, after, hcut, rfl, hfound, -, -⟩ | ⟨j, -, h⟩)
    · have hlength := congrArg List.length hcut
      simp only [List.length_append, ← hfound.length_eq] at hlength
      omega
    · exact absurd h (hrest j)
  · rintro rfl
    have hself : List.Forall₂ (fun w c => sameLetter w c = true) limitWord limitWord :=
      List.forall₂_same.mpr fun w _ => by simp [sameLetter]
    exact Or.inl ⟨[], limitWord, [], by simp, rfl, hself, rfl, rfl⟩

/-- What is put behind a statement that sets no limit: a new line or a space, and then the limit. -/
theorem newLine_limitText {body : List Char} (cap : Int) (h : ¬ hasLimit body = true) :
    ∃ gap ∈ [' ', '\n'], newLine body ++ limitText body cap = gap :: limitClause cap := by
  unfold newLine limitText
  by_cases hdashes : hasDashes (lastLine body) = true
  · exact ⟨'\n', by simp, by simp [h, hdashes]⟩
  · exact ⟨' ', by simp, by simp [h, hdashes]⟩

/-! The capped text. -/

theorem isBody_limited {body : List Char} (htight : body.getLast?.any isBlank = false) :
    IsBody (body ++ (newLine body ++ [';'])) body := by
  refine ⟨htight, _, rfl, Or.inr ⟨newLine body, [], rfl, fun c hc => ?_, List.forall_mem_nil _⟩⟩
  unfold newLine at hc
  split at hc
  · rw [List.mem_singleton.mp hc]
    decide
  · cases hc

theorem isBody_open {body : List Char} {cap : Int} (hcap : 0 < cap) (h : ¬ hasLimit body = true) :
    IsBody (body ++ (newLine body ++ (limitText body cap ++ [';'])))
      (body ++ (newLine body ++ limitText body cap)) := by
  obtain ⟨gap, -, htail⟩ := newLine_limitText cap h
  obtain ⟨c, hlast, hdigit⟩ := getLast?_limitClause hcap
  have hclause : limitClause cap ≠ [] := by
    intro hnil
    rw [hnil] at hlast
    cases hlast
  refine ⟨?_, [';'], by simp, Or.inr ⟨[], [], rfl, List.forall_mem_nil _, List.forall_mem_nil _⟩⟩
  rw [htail, List.append_cons, List.getLast?_append_of_ne_nil _ hclause, hlast, Option.any_some]
  exact (isDigitChar_of_isDigit hdigit).2

theorem limits_open {body : List Char} {cap : Int} (hcap : 0 < cap) (h : ¬ hasLimit body = true) (i : Nat) :
    StandsAt limitWord (body ++ (newLine body ++ (limitText body cap ++ [';']))) i ↔ i = body.length + 1 := by
  obtain ⟨gap, hmem, htail⟩ := newLine_limitText cap h
  have hblanks : ∀ gap ∈ [' ', '\n'], isBlank gap = true := forall_mem_of_all (by decide)
  have hgap := hblanks gap hmem
  have hsplit : body ++ (newLine body ++ (limitText body cap ++ [';'])) =
      body ++ gap :: (limitClause cap ++ [';']) := by
    rw [← List.append_assoc (newLine body), htail, List.cons_append]
  rw [hsplit, standsAt_gap_iff limitWord_ne_nil (isGap_limit_of_isBlank hgap)]
  constructor
  · rintro (hbody | ⟨j, rfl, hj⟩)
    · exact absurd (hasLimit_iff.mpr ⟨i, hbody⟩) h
    · obtain rfl := (standsAt_limitClause hcap j).mp hj
      rfl
  · rintro rfl
    exact Or.inr ⟨0, rfl, (standsAt_limitClause hcap 0).mpr rfl⟩

theorem limitText_eq_nil {body : List Char} (cap : Int) (h : hasLimit body = true) : limitText body cap = [] :=
  if_pos h

/-- Capping a text again, under whatever cap, changes nothing. -/
theorem applyRowCap_applyRowCap {cap again : Int} (hcap : 0 < cap) (hagain : 0 < again) (sql : String) :
    applyRowCap (applyRowCap sql cap) again = applyRowCap sql cap := by
  obtain ⟨body, hbody⟩ : ∃ body, statementBody sql.toList = body := ⟨_, rfl⟩
  have hout := toList_applyRowCap hcap hbody
  rw [← String.toList_inj]
  by_cases hlimit : hasLimit body = true
  · have htight := (statementBody_eq_iff.mp hbody).1
    rw [limitText_eq_nil cap hlimit, List.nil_append] at hout
    have hsame : statementBody (applyRowCap sql cap).toList = body := by
      rw [hout]
      exact statementBody_eq_iff.mpr (isBody_limited htight)
    rw [toList_applyRowCap hagain hsame, hout, limitText_eq_nil again hlimit, List.nil_append]
  · have hopen := isBody_open hcap hlimit
    obtain ⟨capped, hcapped⟩ : ∃ capped, body ++ (newLine body ++ limitText body cap) = capped := ⟨_, rfl⟩
    rw [hcapped, ← hout] at hopen
    have hcalm : IsCalm (limitText body cap) := fun c hc =>
      isCalm_limitText hcap body c (List.mem_append_left _ hc)
    have hline : newLine capped = [] := by
      rw [← hcapped]
      exact newLine_append body hcalm
    have hlimited : hasLimit capped = true := by
      refine hasLimit_iff.mpr ⟨body.length + 1, (hopen.limits _).mp ?_⟩
      rw [hout]
      exact (limits_open hcap hlimit _).mpr rfl
    rw [toList_applyRowCap hagain (statementBody_eq_iff.mpr hopen), hline, limitText_eq_nil again hlimited, hout,
      ← hcapped]
    simp only [List.nil_append, List.append_assoc]

end QueryGate
