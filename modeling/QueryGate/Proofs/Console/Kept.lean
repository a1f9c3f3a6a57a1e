import QueryGate.Console.Report
import QueryGate.Proofs.Console.Shown
/-! Which texts a console shows as they were given. What is shown of a piece has no more colons than the piece, and if
it has as many, then it is a part of the piece, so that a whole text is kept only if each of its pieces is. -/

namespace QueryGate

/-! A stretch of plain text. -/

/-- A stretch in which nothing is taken for anything else. -/
structure IsKept (cs : List Char) : Prop where
  bare : ¬['\\', '['] <:+: cs
  undrawn : withEmoji cs = cs
  uncontrolled : ∀ c ∈ cs, isDroppedControl c = false

theorem openBrackets_sublist (cs : List Char) : (openBrackets cs).Sublist cs := by
  fun_induction openBrackets cs with
  | case1 rest ih => exact (ih.cons_cons '[').cons '\\'
  | case2 c rest _ ih => exact ih.cons_cons c
  | case3 => exact .refl _

theorem count_openBrackets (cs : List Char) : (openBrackets cs).count ':' = cs.count ':' := by
  fun_induction openBrackets cs with
  | case1 rest ih => simp [ih]
  | case2 c rest _ ih => simp only [List.count_cons, ih]
  | case3 => rfl

theorem count_dropControls (cs : List Char) : (cs.filter (!isDroppedControl ·)).count ':' = cs.count ':' :=
  List.count_filter (by decide)

theorem count_shownPlain_le (cs : List Char) : (shownPlain cs).count ':' ≤ cs.count ':' := by
  rw [shownPlain, count_dropControls, ← count_openBrackets cs]
  exact count_replaceEmoji_le _ _ (.inl rfl)

theorem shownPlain_of_count {cs : List Char} (h : (shownPlain cs).count ':' = cs.count ':') :
    shownPlain cs = (openBrackets cs).filter (!isDroppedControl ·) ∧ withEmoji (openBrackets cs) = openBrackets cs := by
  rw [shownPlain, count_dropControls, ← count_openBrackets cs] at h
  have hundrawn : withEmoji (openBrackets cs) = openBrackets cs := replaceEmoji_eq_self h
  rw [shownPlain, hundrawn]
  exact ⟨rfl, rfl⟩

theorem shownPlain_sublist {cs : List Char} (h : (shownPlain cs).count ':' = cs.count ':') : (shownPlain cs).Sublist cs := by
  rw [(shownPlain_of_count h).1]
  exact List.filter_sublist.trans (openBrackets_sublist cs)

theorem shownPlain_eq_self_iff {cs : List Char} : shownPlain cs = cs ↔ IsKept cs := by
  constructor
  · intro h
    obtain ⟨hshown, hundrawn⟩ := shownPlain_of_count (congrArg (List.count ':') h)
    have hfilter : (openBrackets cs).filter (!isDroppedControl ·) = cs := hshown.symm.trans h
    have hpart : ((openBrackets cs).filter (!isDroppedControl ·)).Sublist (openBrackets cs) := List.filter_sublist
    rw [hfilter] at hpart
    have hopen : openBrackets cs = cs := (openBrackets_sublist cs).eq_of_length_le hpart.length_le
    rw [hopen] at hfilter hundrawn
    refine ⟨openBrackets_eq_self_iff.mp hopen, hundrawn, fun c hc => ?_⟩
    simpa using List.filter_eq_self.mp hfilter c hc
  · rintro ⟨hbare, hundrawn, hcontrols⟩
    rw [shownPlain, openBrackets_eq_self_iff.mpr hbare, hundrawn, List.filter_eq_self]
    intro c hc
    rw [hcontrols c hc]
    rfl

/-! Pieces. -/

section Parts

variable {α : Type} {p : Char → Bool} {f g : α → List Char} {l : List α}

theorem countP_flatMap_le (h : ∀ x ∈ l, (f x).countP p ≤ (g x).countP p) :
    (l.flatMap f).countP p ≤ (l.flatMap g).countP p := by
  induction l with
  | nil => exact Nat.le_refl _
  | cons x l ih =>
    rw [List.flatMap_cons, List.flatMap_cons, List.countP_append, List.countP_append]
    exact Nat.add_le_add (h x List.mem_cons_self) (ih fun y hy => h y (List.mem_cons_of_mem x hy))

/-- Parts that have at most as much as others have just as much if all of them together do. -/
theorem countP_eq_of_flatMap (hle : ∀ x ∈ l, (f x).countP p ≤ (g x).countP p)
    (h : (l.flatMap f).countP p = (l.flatMap g).countP p) : ∀ x ∈ l, (f x).countP p = (g x).countP p := by
  induction l with
  | nil => simp
  | cons x l ih =>
    have hhead := hle x List.mem_cons_self
    have htail : ∀ y ∈ l, (f y).countP p ≤ (g y).countP p := fun y hy => hle y (List.mem_cons_of_mem x hy)
    have hrest := countP_flatMap_le htail
    rw [List.flatMap_cons, List.flatMap_cons, List.countP_append, List.countP_append] at h
    rw [List.forall_mem_cons]
    exact ⟨by omega, ih htail (by omega)⟩

end Parts

/-- Pieces that are shown as parts of themselves are shown whole if their text is. -/
theorem pieces_kept {pieces : List TextPiece} {g : TextPiece → List Char}
    (hcount : ∀ piece ∈ pieces, (g piece).count ':' ≤ piece.chars.count ':')
    (hsub : ∀ piece ∈ pieces, (g piece).count ':' = piece.chars.count ':' → (g piece).Sublist piece.chars)
    (h : pieces.flatMap g = pieces.flatMap TextPiece.chars) : ∀ piece ∈ pieces, g piece = piece.chars := by
  have hcounts : ∀ piece ∈ pieces, (g piece).count ':' = piece.chars.count ':' :=
    countP_eq_of_flatMap hcount (congrArg (List.count ':') h)
  have hparts : ∀ piece ∈ pieces, (g piece).Sublist piece.chars := fun piece hpiece => hsub piece hpiece (hcounts piece hpiece)
  have hlengths : ∀ piece ∈ pieces, (g piece).length = piece.chars.length := by
    simp only [← List.countP_true]
    refine countP_eq_of_flatMap (fun piece hpiece => ?_) (congrArg (List.countP fun _ => true) h)
    exact (hparts piece hpiece).countP_le
  exact fun piece hpiece => (hparts piece hpiece).eq_of_length (hlengths piece hpiece)

/-! Markup. -/

def HasTag (cs : List Char) : Prop :=
  ∃ inside, IsTagInside inside ∧ bracketedChars inside <:+: cs

theorem textPieces_of_not_hasTag {cs : List Char} (h : ¬HasTag cs) : textPieces cs = addPlain cs [] := by
  induction cs using tagInduction with
  | nil => rfl
  | char c rest hnone ih =>
    have hrest : ¬HasTag rest := fun ⟨inside, hinside, hinfix⟩ =>
      h ⟨inside, hinside, hinfix.trans (List.suffix_cons c rest).isInfix⟩
    rw [textPieces_char hnone, ih hrest, addPlain_addPlain, List.singleton_append]
  | tag count inside after hinside _ =>
    rw [← List.append_assoc] at h
    exact absurd ⟨inside, hinside, List.infix_append _ _ _⟩ h

theorem tag_mem_addPlain {pieces : List TextPiece} {count : Nat} {inside : List Char} (front : List Char)
    (h : .tag count inside ∈ pieces) : .tag count inside ∈ addPlain front pieces := by
  unfold addPlain
  split
  · simpa using h
  · split
    · exact h
    · exact List.mem_cons_of_mem _ h

theorem exists_tag_of_hasTag {cs : List Char} (h : HasTag cs) : ∃ count inside, .tag count inside ∈ textPieces cs := by
  induction cs using tagInduction with
  | nil =>
    obtain ⟨inside, -, hinfix⟩ := h
    simp [bracketedChars] at hinfix
  | char c rest hnone ih =>
    obtain ⟨inside, hinside, hinfix⟩ := h
    rcases List.infix_cons_iff.mp hinfix with ⟨after, hprefix⟩ | hrest
    · have htag := escapedTag?_tag hinside 0 after
      rw [backslashes, List.replicate_zero, List.nil_append, hprefix] at htag
      cases hnone.symm.trans htag
    · obtain ⟨count, inside, hmem⟩ := ih ⟨inside, hinside, hrest⟩
      refine ⟨count, inside, ?_⟩
      rw [textPieces_char hnone]
      exact tag_mem_addPlain [c] hmem
  | tag count inside after hinside _ =>
    rw [textPieces_tag hinside]
    exact ⟨count, inside, List.mem_cons_self⟩

theorem shownMarkup_of_not_hasTag {cs : List Char} (h : ¬HasTag cs) : shownMarkup cs = shownPlain cs := by
  rw [shownMarkup, textPieces_of_not_hasTag h]
  cases cs with
  | nil => rfl
  | cons c rest => simp [addPlain, shownPiece]

theorem count_backslashes (n : Nat) : (backslashes n).count ':' = 0 :=
  List.count_eq_zero.mpr (not_mem_backslashes (by decide) n)

theorem count_shownPiece_le (piece : TextPiece) : (shownPiece piece).count ':' ≤ piece.chars.count ':' := by
  cases piece with
  | plain cs => exact count_shownPlain_le cs
  | tag count inside =>
    rw [shownPiece, TextPiece.chars, List.count_append, List.count_append, count_backslashes, count_backslashes]
    split
    · exact Nat.add_le_add_left (count_shownPlain_le _) 0
    · exact Nat.add_le_add_left (Nat.zero_le _) 0

theorem shownPiece_sublist {piece : TextPiece} (h : (shownPiece piece).count ':' = piece.chars.count ':') :
    (shownPiece piece).Sublist piece.chars := by
  cases piece with
  | plain cs => exact shownPlain_sublist h
  | tag count inside =>
    have hslashes : (backslashes (count / 2)).Sublist (backslashes count) := by
      rw [backslashes, backslashes, List.replicate_sublist_iff, List.count_replicate_self]
      exact Nat.div_le_self count 2
    rw [shownPiece, TextPiece.chars] at h ⊢
    split at h
    · next hodd =>
      rw [List.count_append, List.count_append, count_backslashes, count_backslashes, Nat.add_left_cancel_iff] at h
      rw [if_pos hodd]
      exact hslashes.append (shownPlain_sublist h)
    · next heven =>
      rw [if_neg heven]
      exact hslashes.append (List.nil_sublist _)

/-- A tag loses itself, or at least the backslash that escapes it. -/
theorem shownPiece_tag_ne (count : Nat) (inside : List Char) :
    shownPiece (.tag count inside) ≠ TextPiece.chars (.tag count inside) := by
  intro h
  rw [shownPiece, TextPiece.chars] at h
  split at h
  · next hodd =>
    have hcolons := congrArg (List.count ':') h
    rw [List.count_append, List.count_append, count_backslashes, count_backslashes, Nat.add_left_cancel_iff] at hcolons
    have hshorter := (shownPlain_sublist hcolons).length_le
    have hlength := congrArg List.length h
    simp only [backslashes, List.length_append, List.length_replicate] at hlength
    omega
  · have hlength := congrArg List.length h
    simp only [backslashes, bracketedChars, List.length_append, List.length_replicate, List.length_cons,
      List.length_nil] at hlength
    omega

/-- Markup is shown as it is if it has no tags and nothing else to read into it. -/
theorem shownMarkup_eq_self_iff {cs : List Char} : shownMarkup cs = cs ↔ ¬HasTag cs ∧ IsKept cs := by
  constructor
  · intro h
    have hpieces : (textPieces cs).flatMap shownPiece = (textPieces cs).flatMap TextPiece.chars :=
      h.trans (flatMap_chars cs).symm
    have hkept := pieces_kept (fun piece _ => count_shownPiece_le piece) (fun _ _ => shownPiece_sublist) hpieces
    have htag : ¬HasTag cs := by
      intro hhas
      obtain ⟨count, inside, hmem⟩ := exists_tag_of_hasTag hhas
      exact shownPiece_tag_ne count inside (hkept _ hmem)
    rw [shownMarkup_of_not_hasTag htag] at h
    exact ⟨htag, shownPlain_eq_self_iff.mp h⟩
  · rintro ⟨htag, hkept⟩
    rw [shownMarkup_of_not_hasTag htag, shownPlain_eq_self_iff.mpr hkept]

end QueryGate
