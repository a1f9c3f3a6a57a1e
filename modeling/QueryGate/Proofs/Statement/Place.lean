import Mathlib.Data.List.TakeWhile
import QueryGate.Proofs.Statement.Occurrence
import QueryGate.Statement.RowCap
/-! Where words stand in a text, and on which lines. -/

namespace QueryGate

/-! The places at which a word stands on its own in a text. No such place reaches across a character that
is neither part of a word nor a letter of this one, so the places of a text that is put together at such a
character are those of its parts. -/

/-- The letters of a word stand at a place, in whatever case, with no word character on either side. -/
def StandsAt (word cs : List Char) (i : Nat) : Prop :=
  ∃ before found after, cs = before ++ (found ++ after) ∧ before.length = i ∧
    List.Forall₂ (fun w c => sameLetter w c = true) word found ∧
    before.getLast?.any isWordChar = false ∧ after.head?.any isWordChar = false

theorem wordHere_iff {word front cs : List Char} :
    wordHere word front.getLast? cs = true ↔ StandsAt word (front ++ cs) front.length := by
  simp only [wordHere, Bool.and_eq_true, Bool.not_eq_true']
  constructor
  · rintro ⟨hbefore, hword⟩
    cases hrest : afterLetters? word cs with
    | none => simp [hrest] at hword
    | some after =>
      obtain ⟨found, rfl, hfound⟩ := afterLetters_eq_some.mp hrest
      exact ⟨front, found, after, rfl, rfl, hfound, hbefore, by simpa [hrest] using hword⟩
  · rintro ⟨before, found, after, hsplit, hlength, hfound, hbefore, hafter⟩
    obtain ⟨rfl, rfl⟩ := List.append_inj hsplit hlength.symm
    have hrest : afterLetters? word (found ++ after) = some after :=
      afterLetters_eq_some.mpr ⟨found, rfl, hfound⟩
    exact ⟨hbefore, by simp [hrest, hafter]⟩

theorem StandsAt.lt_length {word cs : List Char} {i : Nat} (hword : word ≠ []) (h : StandsAt word cs i) :
    i < cs.length := by
  obtain ⟨before, found, after, rfl, rfl, hfound, -, -⟩ := h
  have hlength := hfound.length_eq
  have hpos := List.length_pos_iff.mpr hword
  simp only [List.length_append]
  omega

theorem hasWordFrom_iff {word cs : List Char} (hword : word ≠ []) (front : List Char) :
    hasWordFrom word front.getLast? cs = true ↔
      ∃ i, front.length ≤ i ∧ StandsAt word (front ++ cs) i := by
  induction cs generalizing front with
  | nil =>
    simp only [hasWordFrom, Bool.false_eq_true, List.append_nil, false_iff]
    rintro ⟨i, hi, h⟩
    have hlt := h.lt_length hword
    omega
  | cons c cs ih =>
    have hnext := ih (front ++ [c])
    simp only [List.getLast?_concat, List.length_append, List.length_singleton, List.append_assoc,
      List.singleton_append] at hnext
    rw [hasWordFrom, Bool.or_eq_true, wordHere_iff, hnext]
    constructor
    · rintro (h | ⟨i, hi, h⟩)
      · exact ⟨front.length, Nat.le_refl _, h⟩
      · exact ⟨i, by omega, h⟩
    · rintro ⟨i, hi, h⟩
      by_cases hhere : i = front.length
      · exact Or.inl (hhere ▸ h)
      · exact Or.inr ⟨i, by omega, h⟩

/-- A character across which the word does not reach. -/
structure IsGap (word : List Char) (x : Char) : Prop where
  plain : isWordChar x = false
  letter : ∀ w ∈ word, sameLetter w x = false

section

variable {word a b : List Char} {x : Char}

theorem StandsAt.append_gap {i : Nat} (hx : IsGap word x) (h : StandsAt word a i) (b : List Char) :
    StandsAt word (a ++ x :: b) i := by
  obtain ⟨before, found, after, rfl, hlength, hfound, hbefore, hafter⟩ := h
  refine ⟨before, found, after ++ x :: b, by simp, hlength, hfound, hbefore, ?_⟩
  cases after with
  | nil => simpa using hx.plain
  | cons y after => simpa using hafter

theorem StandsAt.gap_append {j : Nat} (hx : IsGap word x) (h : StandsAt word b j) (a : List Char) :
    StandsAt word (a ++ x :: b) (a.length + 1 + j) := by
  obtain ⟨before, found, after, rfl, rfl, hfound, hbefore, hafter⟩ := h
  refine ⟨a ++ x :: before, found, after, by simp, by simp; omega, hfound, ?_, hafter⟩
  rw [List.getLast?_append, List.getLast?_cons]
  cases hlast : before.getLast? with
  | none => simpa using hx.plain
  | some y => simpa [hlast] using hbefore

/-- The places of a text with a gap in it are those in front of the gap and those behind it. -/
theorem standsAt_gap_iff {i : Nat} (hword : word ≠ []) (hx : IsGap word x) :
    StandsAt word (a ++ x :: b) i ↔
      StandsAt word a i ∨ ∃ j, i = a.length + 1 + j ∧ StandsAt word b j := by
  constructor
  · rintro ⟨before, found, after, hsplit, rfl, hfound, hbefore, hafter⟩
    have hmem : x ∉ found := not_mem_of_no_letter hx.letter hfound
    obtain ⟨y, ys, hne⟩ : ∃ y ys, found = y :: ys := by
      cases hfound with
      | nil => exact absurd rfl hword
      | @cons _ y _ ys => exact ⟨y, ys, rfl⟩
    rcases List.append_eq_append_iff.mp hsplit with ⟨c, hc, htail⟩ | ⟨c, hc, htail⟩
    · cases c with
      | nil =>
        -- The word would begin with the gap.
        rw [hne, List.nil_append, List.cons_append] at htail
        obtain ⟨rfl, -⟩ := List.cons.inj htail
        exact absurd (by simp [hne]) hmem
      | cons z c =>
        obtain ⟨rfl, rfl⟩ := List.cons.inj htail
        refine Or.inr ⟨c.length, by simp [hc]; omega, c, found, after, rfl, rfl, hfound, ?_, hafter⟩
        rw [hc, List.getLast?_append, List.getLast?_cons] at hbefore
        cases hlast : c.getLast? with
        | none => rfl
        | some y => simpa [hlast] using hbefore
    · rcases List.append_eq_append_iff.mp htail with ⟨d, hd, hgap⟩ | ⟨d, hd, hgap⟩
      · refine Or.inl ⟨before, found, d, by rw [hc, hd], rfl, hfound, hbefore, ?_⟩
        cases d with
        | nil => rfl
        | cons z d =>
          rw [hgap] at hafter
          simpa using hafter
      · cases d with
        | nil =>
          have hfront : c = found := by simpa using hd.symm
          exact Or.inl ⟨before, found, [], by rw [hc, hfront, List.append_nil], rfl, hfound, hbefore, rfl⟩
        | cons z d =>
          obtain ⟨rfl, -⟩ := List.cons.inj hgap
          exact absurd (by simp [hd]) hmem
  · rintro (h | ⟨j, rfl, h⟩)
    · exact h.append_gap hx b
    · exact h.gap_append hx a

theorem not_standsAt_of_no_letter {w : Char} {i : Nat} (h : ∀ c ∈ b, sameLetter w c = false) :
    ¬ StandsAt (w :: word) b i := by
  rintro ⟨before, found, after, rfl, -, hfound, -, -⟩
  exact not_occurs_of_no_letter h ⟨before, found, after, by simp, hfound⟩

theorem standsAt_gaps_iff {i : Nat} (hword : word ≠ []) (hb : ∀ x ∈ b, IsGap word x) :
    StandsAt word (a ++ b) i ↔ StandsAt word a i := by
  induction b generalizing a with
  | nil => rw [List.append_nil]
  | cons x b ih =>
    obtain ⟨hx, hb⟩ := List.forall_mem_cons.mp hb
    rw [List.append_cons, ih hb, standsAt_gap_iff hword hx]
    constructor
    · rintro (h | ⟨j, -, h⟩)
      · exact h
      · exact absurd (h.lt_length hword) (Nat.not_lt_zero j)
    · exact Or.inl

end

/-! The lines of a text. What is put behind a text goes to a new line if the last line has dashes in it, so
that no line with dashes gets longer. -/

/-- The line of a text that the character at a place is on. -/
def lineAt (cs : List Char) (i : Nat) : List Char :=
  lastLine (cs.take i) ++ (cs.drop i).takeWhile (· ≠ '\n')

/-- A line begins behind the text: there is nothing in front of it but whole lines. -/
def EndsLine (front : List Char) : Prop :=
  front.getLast?.all (· = '\n') = true

theorem hasDashes_iff {cs : List Char} : hasDashes cs = true ↔ ['-', '-'] <:+: cs := by
  fun_induction hasDashes cs with
  | case1 rest => simp [List.infix_cons_iff]
  | case2 c rest hno ih =>
    rw [ih, List.infix_cons_iff]
    constructor
    · exact Or.inr
    · rintro (⟨after, hafter⟩ | h)
      · obtain ⟨rfl, rfl⟩ := List.cons.inj hafter
        exact absurd rfl (hno after rfl)
      · exact h
  | case3 => simp

theorem lastLine_append {front line : List Char} (hfront : EndsLine front) (hline : '\n' ∉ line) :
    lastLine (front ++ line) = line := by
  have hpass : ∀ c ∈ line.reverse, decide (c ≠ '\n') = true := by
    intro c hc
    rw [decide_eq_true_eq]
    rintro rfl
    exact hline (List.mem_reverse.mp hc)
  have hstop : front.reverse.takeWhile (fun c => decide (c ≠ '\n')) = [] := by
    cases hrev : front.reverse with
    | nil => rfl
    | cons c rest =>
      have hc : front.getLast? = some c := by rw [← List.head?_reverse, hrev, List.head?_cons]
      have hfeed : c = '\n' := by simpa [EndsLine, hc] using hfront
      exact List.takeWhile_cons_of_neg (by simp [hfeed])
  rw [lastLine, List.reverse_append, List.takeWhile_append_of_pos hpass, hstop, List.append_nil,
    List.reverse_reverse]

theorem lastLine_split (cs : List Char) :
    ∃ front, cs = front ++ lastLine cs ∧ EndsLine front ∧ '\n' ∉ lastLine cs := by
  refine ⟨(cs.reverse.dropWhile (fun c => decide (c ≠ '\n'))).reverse, ?_, ?_, ?_⟩
  · rw [lastLine, ← List.reverse_append, List.takeWhile_append_dropWhile, List.reverse_reverse]
  · have hhead := List.head?_dropWhile_not (fun c => decide (c ≠ '\n')) cs.reverse
    rw [EndsLine, List.getLast?_reverse]
    cases hfirst : (cs.reverse.dropWhile fun c => decide (c ≠ '\n')).head? with
    | none => rfl
    | some c =>
      rw [hfirst] at hhead
      simpa using hhead
  · intro hmem
    have hall := List.all_eq_true.mp List.all_takeWhile '\n' (List.mem_reverse.mp hmem)
    simp at hall

theorem lineAt_append {front line : List Char} (hfront : EndsLine front) (hline : '\n' ∉ line) {i : Nat}
    (hi : front.length ≤ i) : lineAt (front ++ line) i = line := by
  have htake : (front ++ line).take i = front ++ line.take (i - front.length) := by
    rw [List.take_append, List.take_of_length_le hi]
  have hdrop : (front ++ line).drop i = line.drop (i - front.length) := by
    rw [List.drop_append, List.drop_of_length_le hi, List.nil_append]
  have hrest : (line.drop (i - front.length)).takeWhile (fun c => decide (c ≠ '\n')) =
      line.drop (i - front.length) := by
    refine List.takeWhile_eq_self_iff.mpr fun c hc => ?_
    rw [decide_eq_true_eq]
    rintro rfl
    exact hline (List.mem_of_mem_drop hc)
  rw [lineAt, htake, hdrop, hrest, lastLine_append hfront fun h => hline (List.mem_of_mem_take h),
    List.take_append_drop]

/-- What goes between a text and what is put behind it. -/
def newLine (body : List Char) : List Char :=
  if hasDashes (lastLine body) then ['\n'] else []

/-- Characters that neither end a line nor make dashes. -/
def IsCalm (text : List Char) : Prop :=
  ∀ c ∈ text, c ≠ '\n' ∧ c ≠ '-'

theorem not_dashes_append_calm {line text : List Char} (hline : ¬ ['-', '-'] <:+: line)
    (htext : IsCalm text) : ¬ ['-', '-'] <:+: line ++ text := by
  rintro ⟨before, after, h⟩
  have hcut : before ++ (['-', '-'] ++ after) = line ++ text := by rw [← h, List.append_assoc]
  rcases List.append_eq_append_iff.mp hcut with ⟨c, hc, htail⟩ | ⟨c, hc, htail⟩
  · match c with
    | [] =>
      have hmem : '-' ∈ text := (show '-' :: '-' :: after = text from htail) ▸ List.mem_cons_self
      exact (htext '-' hmem).2 rfl
    | [x] =>
      obtain ⟨-, hrest⟩ := List.cons.inj htail
      have hmem : '-' ∈ text := (show '-' :: after = text from hrest) ▸ List.mem_cons_self
      exact (htext '-' hmem).2 rfl
    | x :: y :: c =>
      obtain ⟨rfl, hrest⟩ := List.cons.inj htail
      obtain ⟨rfl, -⟩ := List.cons.inj hrest
      exact hline ⟨before, c, by simp [hc]⟩
  · exact (htext '-' (by simp [htail])).2 rfl

/-- The last line of a text with calm text put behind it has no dashes, and all of that text is on it. -/
theorem newLine_split (body : List Char) {text : List Char} (htext : IsCalm text) :
    ∃ front line, body ++ (newLine body ++ text) = front ++ line ∧ EndsLine front ∧ '\n' ∉ line ∧
      ¬ ['-', '-'] <:+: line ∧ front.length ≤ (body ++ newLine body).length := by
  have hfeed : '\n' ∉ text := fun h => (htext '\n' h).1 rfl
  by_cases hdashes : hasDashes (lastLine body) = true
  · have hnew : newLine body = ['\n'] := if_pos hdashes
    have hnone : ¬ ['-', '-'] <:+: [] ++ text := not_dashes_append_calm (by simp) htext
    exact ⟨body ++ ['\n'], text, by simp [hnew], by simp [EndsLine], hfeed, hnone, by simp [hnew]⟩
  · have hnew : newLine body = [] := if_neg hdashes
    obtain ⟨front, hbody, hfront, hline⟩ := lastLine_split body
    refine ⟨front, lastLine body ++ text, ?_, hfront, ?_, ?_, ?_⟩
    · rw [hnew, List.nil_append, ← List.append_assoc, ← hbody]
    · exact fun h => (List.mem_append.mp h).elim hline hfeed
    · exact not_dashes_append_calm (fun h => hdashes (hasDashes_iff.mpr h)) htext
    · have hlength := congrArg List.length hbody
      rw [List.length_append] at hlength
      rw [hnew, List.append_nil]
      omega

theorem not_dashes_at (body : List Char) {text : List Char} (htext : IsCalm text) {i : Nat} {c : Char}
    (hi : body.length ≤ i) (hc : (body ++ (newLine body ++ text))[i]? = some c) (hfeed : c ≠ '\n') :
    ¬ ['-', '-'] <:+: lineAt (body ++ (newLine body ++ text)) i := by
  obtain ⟨front, line, hsplit, hfront, hline, hnone, hlength⟩ := newLine_split body htext
  have hbehind : (body ++ newLine body).length ≤ i := by
    refine Nat.le_of_not_lt fun hlt => ?_
    rw [List.length_append] at hlt
    rw [List.getElem?_append_right hi, List.getElem?_append_left (by omega)] at hc
    have hmem := List.mem_of_getElem? hc
    unfold newLine at hmem
    split at hmem
    · exact hfeed (List.mem_singleton.mp hmem)
    · cases hmem
  rw [hsplit, lineAt_append hfront hline (Nat.le_trans hlength hbehind)]
  exact hnone

theorem newLine_append (body : List Char) {text : List Char} (htext : IsCalm text) :
    newLine (body ++ (newLine body ++ text)) = [] := by
  obtain ⟨front, line, hsplit, hfront, hline, hnone, -⟩ := newLine_split body htext
  rw [hsplit, newLine, lastLine_append hfront hline, if_neg]
  exact fun h => hnone (hasDashes_iff.mp h)

end QueryGate
