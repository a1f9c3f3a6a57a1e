import Mathlib.Data.List.Basic
import QueryGate.Proofs.Console.Kept
/-! Cells. A value is escaped before it is shown, so that its tags stay and nothing stops it. It is still not kept if it
ends in one backslash, since that one is doubled. -/

namespace QueryGate

/-! The end of a text. -/

theorem suffix_of_not_mem (front : List Char) {ending after : List Char} {mark : Char}
    (h : ending <:+ front ++ mark :: after) (hmark : mark ∉ ending) : ending <:+ after := by
  rcases List.suffix_or_suffix_of_suffix h (List.suffix_append front (mark :: after)) with hshort | hlong
  · rcases List.suffix_cons_iff.mp hshort with rfl | hafter
    · exact absurd List.mem_cons_self hmark
    · exact hafter
  · exact absurd (hlong.subset List.mem_cons_self) hmark

theorem suffix_replaceEmoji {n : Nat} {cs : List Char} (h : backslashes n <:+ cs) (fuel : Nat) :
    backslashes n <:+ replaceEmoji fuel cs := by
  have hcolon : ':' ∉ backslashes n := not_mem_backslashes (by decide) n
  induction fuel generalizing cs with
  | zero => exact h
  | succ fuel ih =>
    cases cs with
    | nil => exact h
    | cons c rest =>
      have hstep := replaceEmoji_step fuel c rest
      generalize replaceEmoji (fuel + 1) (c :: rest) = shown at hstep ⊢
      cases hstep with
      | char =>
        rcases List.suffix_cons_iff.mp h with hall | hrest
        · have hnone : ':' ∉ rest := fun hmem => hcolon (hall ▸ List.mem_cons_of_mem c hmem)
          rwa [replaceEmoji_of_not_mem hnone]
        · exact (ih hrest).trans (List.suffix_cons _ _)
      | name front after =>
        have hafter := ih (suffix_of_not_mem (':' :: front) h hcolon)
        exact hafter.trans ⟨':' :: (front ++ [':']), by simp⟩
      | drawn front after =>
        have hafter := ih (suffix_of_not_mem (':' :: front) h hcolon)
        exact hafter.trans (List.suffix_append _ _)

theorem suffix_openBrackets {n : Nat} {cs : List Char} (h : backslashes n <:+ cs) :
    backslashes n <:+ openBrackets cs := by
  have hbracket : '[' ∉ backslashes n := not_mem_backslashes (by decide) n
  fun_induction openBrackets cs with
  | case1 rest ih => exact (ih (suffix_of_not_mem ['\\'] h hbracket)).trans (List.suffix_cons _ _)
  | case2 c rest _ ih =>
    rcases List.suffix_cons_iff.mp h with hall | hrest
    · have hnone : '[' ∉ rest := fun hmem => hbracket (hall ▸ List.mem_cons_of_mem c hmem)
      rwa [openBrackets_eq_self hnone]
    · exact (ih hrest).trans (List.suffix_cons _ _)
  | case3 => exact h

theorem suffix_shownPlain {n : Nat} {cs : List Char} (h : backslashes n <:+ cs) : backslashes n <:+ shownPlain cs := by
  have hfiltered := (suffix_replaceEmoji (suffix_openBrackets h) (openBrackets cs).length).filter (!isDroppedControl ·)
  rwa [filter_backslashes] at hfiltered

/-- Backslashes at the end of a text are at the end of its last piece. -/
theorem textPieces_suffix {n : Nat} {cs : List Char} (hpos : 0 < n) (h : backslashes n <:+ cs) :
    ∃ front last, textPieces cs = front ++ [.plain last] ∧ backslashes n <:+ last := by
  have hclosing : ']' ∉ backslashes n := not_mem_backslashes (by decide) n
  induction cs using tagInduction with
  | nil =>
    have hlength := h.length_le
    simp only [backslashes, List.length_replicate, List.length_nil] at hlength
    omega
  | char c rest hnone ih =>
    rcases List.suffix_cons_iff.mp h with hall | hrest
    · have htag : ¬HasTag (c :: rest) := by
        rintro ⟨inside, -, hinfix⟩
        exact hclosing (hall ▸ hinfix.subset (by simp [bracketedChars]))
      exact ⟨[], c :: rest, textPieces_of_not_hasTag htag, h⟩
    · obtain ⟨front, last, hpieces, hlast⟩ := ih hrest
      rw [textPieces_char hnone, hpieces]
      cases front with
      | nil => exact ⟨[], c :: last, rfl, hlast.trans (List.suffix_cons c last)⟩
      | cons piece front =>
        cases piece with
        | plain cs => exact ⟨.plain (c :: cs) :: front, last, rfl, hlast⟩
        | tag count inside => exact ⟨.plain [c] :: .tag count inside :: front, last, rfl, hlast⟩
  | tag count inside after hinside ih =>
    have hafter : backslashes n <:+ after := by
      refine suffix_of_not_mem (backslashes count ++ '[' :: inside) ?_ hclosing
      simpa [bracketedChars] using h
    obtain ⟨front, last, hpieces, hlast⟩ := ih hafter
    exact ⟨.tag count inside :: front, last, by rw [textPieces_tag hinside, hpieces]; rfl, hlast⟩

/-! The last backslash. -/

def EndsInLoneBackslash (cs : List Char) : Prop :=
  ∃ front, cs = front ++ ['\\'] ∧ front.getLast? ≠ some '\\'

theorem guardLastBackslash_of_lone {front : List Char} (h : front.getLast? ≠ some '\\') :
    guardLastBackslash (front ++ ['\\']) = front ++ ['\\'] ++ ['\\'] := by
  have hreverse : (front ++ ['\\']).reverse = '\\' :: front.reverse := by simp
  rw [guardLastBackslash, hreverse]
  split
  · next heq =>
    rw [List.getLast?_eq_head?_reverse, (List.cons.inj heq).2] at h
    exact absurd rfl h
  · rfl
  · next hne => exact absurd rfl (hne _)

theorem guardLastBackslash_of_not_lone {cs : List Char} (h : ¬EndsInLoneBackslash cs) : guardLastBackslash cs = cs := by
  unfold guardLastBackslash
  split
  · rfl
  · next rest hmore heq =>
    refine absurd ⟨rest.reverse, ?_, ?_⟩ h
    · rw [← List.reverse_cons, ← heq, List.reverse_reverse]
    · intro hlast
      rw [List.getLast?_reverse] at hlast
      obtain ⟨more, rfl⟩ := List.head?_eq_some_iff.mp hlast
      exact hmore more rfl
  · rfl

theorem getLast?_tag (count : Nat) (inside after : List Char) :
    (backslashes count ++ (bracketedChars inside ++ after)).getLast? = some (after.getLast?.getD ']') := by
  have htext : bracketedChars inside ++ after = '[' :: inside ++ ']' :: after := by simp [bracketedChars]
  rw [htext, List.getLast?_append, List.getLast?_append, List.getLast?_cons]
  rfl

theorem escapedTag?_append_backslash {cs : List Char} (h : escapedTag? cs = none) :
    escapedTag? (cs ++ ['\\']) = none := by
  rw [Option.eq_none_iff_forall_ne_some]
  rintro ⟨count, inside, after⟩ htag
  obtain ⟨htext, hinside⟩ := escapedTag?_eq_some_iff.mp htag
  rcases List.eq_nil_or_concat after with rfl | ⟨front, c, rfl⟩
  · have hlast := congrArg List.getLast? htext
    rw [getLast?_tag, List.getLast?_concat] at hlast
    cases hlast
  · rw [List.concat_eq_append, ← List.append_assoc, ← List.append_assoc] at htext
    obtain ⟨hcs, -⟩ := List.append_inj' htext rfl
    rw [hcs, List.append_assoc, escapedTag?_tag hinside] at h
    cases h

theorem markupChars_append_backslash (cs : List Char) : markupChars (cs ++ ['\\']) = markupChars cs ++ ['\\'] := by
  induction cs using tagInduction with
  | nil => rfl
  | char c rest hnone ih =>
    have happended := escapedTag?_append_backslash hnone
    rw [List.cons_append] at happended ⊢
    rw [markupChars_char happended, ih, markupChars_char hnone, List.cons_append]
  | tag count inside after hinside ih =>
    rw [markupChars_tag hinside, List.append_assoc, List.append_assoc, markupChars_tag hinside, ih,
      List.append_assoc, List.append_assoc]

theorem getLast?_markupChars (cs : List Char) : (markupChars cs).getLast? = cs.getLast? := by
  induction cs using tagInduction with
  | nil => rfl
  | char c rest hnone ih => rw [markupChars_char hnone, List.getLast?_cons, List.getLast?_cons, ih]
  | tag count inside after hinside ih => rw [markupChars_tag hinside, getLast?_tag, getLast?_tag, ih]

theorem endsInLoneBackslash_of_markupChars {cs : List Char} (h : EndsInLoneBackslash (markupChars cs)) :
    EndsInLoneBackslash cs := by
  obtain ⟨front, hescaped, hfront⟩ := h
  have hlast : cs.getLast? = some '\\' := by
    rw [← getLast?_markupChars, hescaped, List.getLast?_concat]
  obtain ⟨before, rfl⟩ := List.getLast?_eq_some_iff.mp hlast
  rw [markupChars_append_backslash] at hescaped
  refine ⟨before, rfl, ?_⟩
  rwa [← getLast?_markupChars, List.append_cancel_right hescaped]

theorem escapeMarkup_eq (cs : List Char) : escapeMarkup cs = markupChars (guardLastBackslash cs) := by
  rw [escapeMarkup, escapeTags_eq (Nat.le_refl _)]
  by_cases hlone : EndsInLoneBackslash cs
  · obtain ⟨front, rfl, hfront⟩ := hlone
    have hescaped : (markupChars front).getLast? ≠ some '\\' := by rwa [getLast?_markupChars]
    rw [guardLastBackslash_of_lone hfront, markupChars_append_backslash, guardLastBackslash_of_lone hescaped,
      markupChars_append_backslash, markupChars_append_backslash]
  · rw [guardLastBackslash_of_not_lone hlone,
      guardLastBackslash_of_not_lone (mt endsInLoneBackslash_of_markupChars hlone)]

/-! Values. -/

/-- The backslashes before a tag. -/
def TextPiece.before : TextPiece → List Char
  | .plain _ => []
  | .tag count _ => backslashes count

def TextPiece.text : TextPiece → List Char
  | .plain cs => cs
  | .tag _ inside => bracketedChars inside

theorem chars_eq (piece : TextPiece) : piece.chars = piece.before ++ piece.text := by
  cases piece <;> rfl

theorem shownPiece_escaped (piece : TextPiece) : shownPiece piece.escaped = piece.before ++ shownPlain piece.text := by
  cases piece with
  | plain cs => rfl
  | tag count inside =>
    have hodd : (2 * count + 1) % 2 = 1 := by omega
    have hhalf : (2 * count + 1) / 2 = count := by omega
    rw [TextPiece.escaped, shownPiece, if_pos hodd, hhalf]
    rfl

/-- A tag that is escaped neither opens nor closes. -/
theorem tagsMatch_escaped (opened : List String) (pieces : List TextPiece) :
    tagsMatch opened (pieces.map TextPiece.escaped) = true := by
  induction pieces with
  | nil => rfl
  | cons piece pieces ih =>
    cases piece with
    | plain cs => exact ih
    | tag count inside =>
      have hodd : (2 * count + 1) % 2 = 1 := by omega
      rw [List.map_cons, TextPiece.escaped, tagsMatch, if_pos hodd, ih]

/-- The text that a cell shows. -/
def shownCell (cs : List Char) : List Char :=
  (textPieces (guardLastBackslash cs)).flatMap fun piece => piece.before ++ shownPlain piece.text

/-- Nothing in a value stops its cell. -/
theorem showEscaped_eq (s : String) : showEscaped s = .ok (shownCell s.toList) := by
  have hshown := showMarkup_shownAs (escapeMarkup s.toList)
  rw [showEscaped]
  rw [escapeMarkup_eq, textPieces_markupChars] at hshown
  rw [escapeMarkup_eq, hshown.eq_ok (by simp [tagsMatch_escaped]), List.flatMap_map, shownCell]
  simp only [shownPiece_escaped]

theorem shownCell_suffix {n : Nat} {cs : List Char} (hpos : 0 < n) (h : backslashes n <:+ guardLastBackslash cs) :
    backslashes n <:+ shownCell cs := by
  obtain ⟨front, last, hpieces, hlast⟩ := textPieces_suffix hpos h
  rw [shownCell, hpieces, List.flatMap_append, List.flatMap_singleton]
  exact (suffix_shownPlain hlast).trans (List.suffix_append _ _)

theorem shownCell_of_lone {cs : List Char} (h : EndsInLoneBackslash cs) : shownCell cs ≠ cs := by
  obtain ⟨front, rfl, hfront⟩ := h
  have hends : backslashes 2 <:+ shownCell (front ++ ['\\']) := by
    refine shownCell_suffix (by decide) ?_
    rw [guardLastBackslash_of_lone hfront, List.append_assoc]
    exact List.suffix_append _ _
  intro heq
  rw [heq] at hends
  obtain ⟨before, hbefore⟩ := hends
  have htwice : before ++ ['\\'] ++ ['\\'] = front ++ ['\\'] := by
    rw [← hbefore, List.append_assoc]
    rfl
  rw [← List.append_cancel_right htwice, List.getLast?_concat] at hfront
  exact hfront rfl

/-- A value is shown as it is if it does not end in one backslash and there is nothing to read into its pieces. -/
theorem shownCell_eq_self_iff {cs : List Char} :
    shownCell cs = cs ↔ ¬EndsInLoneBackslash cs ∧ ∀ piece ∈ textPieces cs, IsKept piece.text := by
  constructor
  · intro h
    have hlone : ¬EndsInLoneBackslash cs := fun hlone => shownCell_of_lone hlone h
    refine ⟨hlone, fun piece hpiece => ?_⟩
    rw [shownCell, guardLastBackslash_of_not_lone hlone] at h
    have hkept := pieces_kept ?_ ?_ (h.trans (flatMap_chars cs).symm) piece hpiece
    · rw [chars_eq] at hkept
      exact shownPlain_eq_self_iff.mp (List.append_cancel_left hkept)
    · intro piece _
      rw [chars_eq, List.count_append, List.count_append]
      exact Nat.add_le_add_left (count_shownPlain_le _) _
    · intro piece _ hcount
      rw [chars_eq, List.count_append, List.count_append, Nat.add_left_cancel_iff] at hcount
      rw [chars_eq]
      exact (List.Sublist.refl _).append (shownPlain_sublist hcount)
  · rintro ⟨hlone, hkept⟩
    rw [shownCell, guardLastBackslash_of_not_lone hlone]
    calc (textPieces cs).flatMap (fun piece => piece.before ++ shownPlain piece.text)
        = (textPieces cs).flatMap TextPiece.chars := by
          refine List.flatMap_congr fun piece hpiece => ?_
          rw [shownPlain_eq_self_iff.mpr (hkept piece hpiece), chars_eq]
      _ = cs := flatMap_chars cs

end QueryGate
