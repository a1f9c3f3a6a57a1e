import Mathlib.Data.List.TakeWhile
import QueryGate.Proofs.Console.Emoji
import QueryGate.Proofs.Console.Pieces
/-! The text that a console shows for markup, piece by piece. It is stopped if a tag closes what is not open, and by
nothing else. -/

namespace QueryGate

/-- A tag that is not escaped is not shown, and of the backslashes before it one in two is. -/
def shownPiece : TextPiece → List Char
  | .plain cs => shownPlain cs
  | .tag count inside => backslashes (count / 2) ++ if count % 2 = 1 then shownPlain (bracketedChars inside) else []

/-- The styles that are open after a tag, unless it closes one that is not. -/
def openedAfter (name : List Char) (opened : List String) : Option (List String) :=
  match name with
  | '/' :: closing =>
    let wanted := trimText (String.ofList closing)
    if wanted.isEmpty then opened.tail?
    else if styleName wanted ∈ opened then some (opened.erase (styleName wanted)) else none
  | _ => some (styleName (String.ofList name) :: opened)

/-- No tag closes a style that is not open. -/
def tagsMatch : List String → List TextPiece → Bool
  | _, [] => true
  | opened, .plain _ :: rest => tagsMatch opened rest
  | opened, .tag count inside :: rest =>
    if count % 2 = 1 then tagsMatch opened rest
    else match openedAfter (inside.takeWhile (· ≠ '=')) opened with
      | some after => tagsMatch after rest
      | none => false

/-- Something is shown, unless a condition holds and stops it. -/
inductive ShownUnless {α : Type} (stops : Prop) (shown : α) : Except Fault α → Prop
  | shown (h : ¬stops) : ShownUnless stops shown (.ok shown)
  | stopped {f : Fault} (hkind : f.kind = .markup) (h : stops) : ShownUnless stops shown (.error f)

namespace ShownUnless

variable {α β : Type} {stops more : Prop} {shown : α} {next : β} {result : Except Fault α} {k : α → Except Fault β}

theorem congr (h : ShownUnless stops shown result) (hiff : stops ↔ more) : ShownUnless more shown result := by
  cases h with
  | shown h => exact .shown (mt hiff.mpr h)
  | stopped hkind h => exact .stopped hkind (hiff.mp h)

theorem bind (h : ShownUnless stops shown result) (hk : ShownUnless more next (k shown)) :
    ShownUnless (stops ∨ more) next (result >>= k) := by
  cases h with
  | shown h => exact hk.congr (or_iff_right h).symm
  | stopped hkind h => exact .stopped hkind (.inl h)

theorem bind_ok (h : ShownUnless stops shown result) (hk : k shown = .ok next) :
    ShownUnless stops next (result >>= k) := by
  cases h with
  | shown h =>
    change ShownUnless stops next (k shown)
    rw [hk]
    exact .shown h
  | stopped hkind h => exact .stopped hkind h

theorem map (h : ShownUnless stops shown result) (g : α → β) : ShownUnless stops (g shown) (result.map g) := by
  cases h with
  | shown h => exact .shown h
  | stopped hkind h => exact .stopped hkind h

theorem eq_ok (h : ShownUnless stops shown result) (hnone : ¬stops) : result = .ok shown := by
  cases h with
  | shown => rfl
  | stopped _ hstops => exact absurd hstops hnone

end ShownUnless

/-- Pieces are shown one after the other, unless their tags do not match. -/
def ShownAs (opened : List String) (pieces : List TextPiece) (result : Except Fault (List Char)) : Prop :=
  ShownUnless (tagsMatch opened pieces = false) (pieces.flatMap shownPiece) result

theorem openBrackets_eq_self_iff {cs : List Char} : openBrackets cs = cs ↔ ¬['\\', '['] <:+: cs := by
  constructor
  · intro h hinfix
    fun_induction openBrackets cs with
    | case1 rest => cases (List.cons.inj h).1
    | case2 c rest hne ih =>
      rcases List.infix_cons_iff.mp hinfix with ⟨more, hprefix⟩ | hrest
      · obtain ⟨rfl, rfl⟩ := List.cons.inj hprefix
        exact hne more rfl rfl
      · exact ih (List.cons.inj h).2 hrest
    | case3 => exact absurd hinfix (by simp)
  · intro h
    fun_induction openBrackets cs with
    | case1 rest ih => exact absurd (List.infix_append [] ['\\', '['] rest) h
    | case2 c rest _ ih => rw [ih fun hrest => h (hrest.trans (List.suffix_cons c rest).isInfix)]
    | case3 => rfl

theorem openBrackets_eq_self {cs : List Char} (h : '[' ∉ cs) : openBrackets cs = cs :=
  openBrackets_eq_self_iff.mpr fun hpair => h (hpair.subset (by simp))

theorem filter_backslashes (n : Nat) : (backslashes n).filter (!isDroppedControl ·) = backslashes n := by
  rw [List.filter_eq_self]
  intro c hc
  rw [List.eq_of_mem_replicate hc]
  decide

theorem shownPlain_backslashes (n : Nat) : shownPlain (backslashes n) = backslashes n := by
  rw [shownPlain, openBrackets_eq_self (not_mem_backslashes (by decide) n), withEmoji,
    replaceEmoji_of_not_mem (not_mem_backslashes (by decide) n), filter_backslashes]

theorem addPlain_nil (pieces : List TextPiece) : addPlain [] pieces = pieces := by
  unfold addPlain
  split <;> rfl

theorem addPlain_of_ne_plain {front : List Char} {pieces : List TextPiece} (h : ∀ cs rest, pieces ≠ .plain cs :: rest) :
    addPlain front pieces = if front.isEmpty then pieces else .plain front :: pieces := by
  unfold addPlain
  split
  · exact absurd rfl (h _ _)
  · rfl

theorem addPlain_addPlain (front back : List Char) (pieces : List TextPiece) :
    addPlain front (addPlain back pieces) = addPlain (front ++ back) pieces := by
  cases back with
  | nil => rw [addPlain_nil, List.append_nil]
  | cons c back =>
    have hne : (front ++ c :: back).isEmpty = false := by simp
    cases pieces with
    | nil => simp [addPlain, hne]
    | cons piece rest =>
      cases piece with
      | plain cs => simp [addPlain]
      | tag count inside => simp [addPlain, hne]

/-! One part after the other. -/

theorem showParts_plain (opened : List String) (cs : List Char) (parts : List MarkupPart) :
    showParts opened (.plain cs :: parts) = (showParts opened parts).map (shownPlain cs ++ ·) := by
  rw [showParts]
  cases showParts opened parts <;> rfl

theorem showParts_literal (opened : List String) (count : Nat) (parts : List MarkupPart) :
    showParts opened ((if count < 2 then [] else [MarkupPart.plain (backslashes (count / 2))]) ++ parts) =
      (showParts opened parts).map (backslashes (count / 2) ++ ·) := by
  by_cases hcount : count < 2
  · have hnone : count / 2 = 0 := by omega
    rw [if_pos hcount, hnone, List.nil_append]
    cases showParts opened parts <;> rfl
  · rw [if_neg hcount, List.singleton_append, showParts_plain, shownPlain_backslashes]

theorem closeStyle_eq (name : String) (opened : List String) :
    closeStyle name opened = if name ∈ opened then some (opened.erase name) else none := by
  induction opened with
  | nil => rfl
  | cons s rest ih =>
    by_cases hs : s = name
    · simp [closeStyle, hs]
    · have hmem : name ∈ s :: rest ↔ name ∈ rest := by simp [Ne.symm hs]
      rw [closeStyle, if_neg hs, ih, List.erase_cons_tail (by simpa using hs)]
      simp only [hmem]
      split <;> rfl

theorem applyTag_of_openedAfter (place : Nat) (name : List Char) (value : Option (List Char)) (opened : List String) :
    ∃ f : Fault, f.kind = .markup ∧
      applyTag place name value opened = (openedAfter name opened).elim (.error f) .ok := by
  by_cases hslash : ∃ closing, name = '/' :: closing
  · obtain ⟨closing, rfl⟩ := hslash
    simp only [openedAfter, applyTag, closeStyle_eq]
    by_cases hempty : (trimText (String.ofList closing)).isEmpty = true
    · rw [if_pos hempty, if_pos hempty]
      cases opened with
      | nil => exact ⟨_, rfl, rfl⟩
      | cons => exact ⟨⟨.markup, ""⟩, rfl, rfl⟩
    · rw [if_neg hempty, if_neg hempty]
      by_cases hmem : styleName (trimText (String.ofList closing)) ∈ opened
      · rw [if_pos hmem]
        exact ⟨⟨.markup, ""⟩, rfl, rfl⟩
      · rw [if_neg hmem]
        exact ⟨_, rfl, rfl⟩
  · have hopens : ∀ closing, name ≠ '/' :: closing := fun closing hname => hslash ⟨closing, hname⟩
    refine ⟨⟨.markup, ""⟩, rfl, ?_⟩
    rw [applyTag, openedAfter]
    · rfl
    · exact hopens
    · exact hopens

theorem ShownAs.plain {opened : List String} {pieces : List TextPiece} {result : Except Fault (List Char)}
    (h : ShownAs opened pieces result) (cs : List Char) :
    ShownAs opened (.plain cs :: pieces) (result.map (shownPlain cs ++ ·)) :=
  h.map _

theorem exists_ofTag (place : Nat) (inside : List Char) :
    ∃ value, MarkupPart.ofTag place inside = .tag place (inside.takeWhile (· ≠ '=')) value := by
  unfold MarkupPart.ofTag
  split
  · exact ⟨_, rfl⟩
  · next hnone => exact ⟨none, by rw [List.takeWhile_eq_self_iff.mpr (List.dropWhile_eq_nil_iff.mp hnone)]⟩

theorem showParts_ofTag {pieces : List TextPiece} {parts : List MarkupPart}
    (h : ∀ opened, ShownAs opened pieces (showParts opened parts)) (place : Nat) (inside : List Char)
    (opened : List String) {count : Nat} (heven : ¬count % 2 = 1) :
    ShownAs opened (.tag count inside :: pieces)
      ((showParts opened (.ofTag place inside :: parts)).map (backslashes (count / 2) ++ ·)) := by
  obtain ⟨value, hpart⟩ := exists_ofTag place inside
  obtain ⟨f, hkind, happly⟩ := applyTag_of_openedAfter place (inside.takeWhile (· ≠ '=')) value opened
  rw [hpart, showParts, happly, ShownAs, tagsMatch, if_neg heven, List.flatMap_cons, shownPiece, if_neg heven,
    List.append_nil]
  cases openedAfter (inside.takeWhile (· ≠ '=')) opened with
  | some after => exact (h after).map _
  | none => exact .stopped hkind rfl

theorem showParts_tag {pieces : List TextPiece} {parts : List MarkupPart}
    (h : ∀ opened, ShownAs opened pieces (showParts opened parts)) (place count : Nat) (inside : List Char)
    (opened : List String) : ShownAs opened (.tag count inside :: pieces) (showParts opened
      ((if count < 2 then [] else [MarkupPart.plain (backslashes (count / 2))]) ++
        (if count % 2 = 1 then .plain (bracketedChars inside) else .ofTag place inside) :: parts)) := by
  rw [showParts_literal]
  by_cases hodd : count % 2 = 1
  · have hshown := ((h opened).plain (bracketedChars inside)).map (backslashes (count / 2) ++ ·)
    rw [if_pos hodd, showParts_plain, ShownAs, tagsMatch, if_pos hodd, List.flatMap_cons, shownPiece, if_pos hodd,
      List.append_assoc]
    exact hshown
  · rw [if_neg hodd]
    exact showParts_ofTag h place inside opened hodd

theorem ShownAs.addPlain {pieces : List TextPiece} {opened : List String} {parts : List MarkupPart}
    (h : ShownAs opened pieces (showParts opened parts)) (hpieces : ∀ cs rest, pieces ≠ .plain cs :: rest)
    (gathered : List Char) :
    ShownAs opened (addPlain gathered.reverse pieces) (showParts opened (plainPart gathered ++ parts)) := by
  rw [addPlain_of_ne_plain hpieces, plainPart, List.isEmpty_reverse]
  split
  · exact h
  · rw [List.singleton_append, showParts_plain]
    exact h.plain gathered.reverse

theorem showParts_markupParts {fuel : Nat} {cs : List Char} (hfuel : cs.length ≤ fuel) (place : Nat)
    (gathered : List Char) (opened : List String) : ShownAs opened (addPlain gathered.reverse (textPieces cs))
      (showParts opened (markupParts place gathered fuel cs)) := by
  induction cs using tagInduction generalizing fuel place gathered opened with
  | nil =>
    have hparts : markupParts place gathered fuel [] = plainPart gathered ++ [] := by
      cases fuel <;> simp [markupParts]
    have hnil : ShownAs opened (textPieces []) (showParts opened []) := .shown (by simp [textPieces, piecesFrom, tagsMatch])
    rw [hparts]
    exact hnil.addPlain (by simp [textPieces, piecesFrom]) gathered
  | char c rest hnone ih =>
    obtain ⟨fuel, rfl⟩ := Nat.exists_eq_add_of_le' (Nat.le_trans (Nat.succ_pos _) hfuel)
    rw [markupParts, hnone, textPieces_char hnone, addPlain_addPlain]
    have hrest := ih (Nat.le_of_succ_le_succ hfuel) (place + 1) (c :: gathered) opened
    rwa [List.reverse_cons] at hrest
  | tag count inside after hinside ih =>
    have hlength := tag_length count inside after
    obtain ⟨fuel, rfl⟩ := Nat.exists_eq_add_of_le' (show 1 ≤ fuel by omega)
    have hafter : ∀ opened, ShownAs opened (textPieces after)
        (showParts opened (markupParts (place + count + inside.length + 2) [] fuel after)) := by
      intro opened
      have hrest := ih (show after.length ≤ fuel by omega) (place + count + inside.length + 2) [] opened
      rwa [List.reverse_nil, addPlain_nil] at hrest
    rw [textPieces_tag hinside]
    obtain ⟨c, rest, htext⟩ := tag_ne_nil count inside after
    have htag := escapedTag?_tag hinside count after
    rw [htext] at htag ⊢
    rw [markupParts, htag]
    dsimp only
    rw [List.append_assoc]
    exact (showParts_tag hafter (place + count) count inside opened).addPlain (by simp) gathered

/-- The text that markup shows if its tags match. -/
def shownMarkup (cs : List Char) : List Char :=
  (textPieces cs).flatMap shownPiece

theorem showMarkup_shownAs (cs : List Char) : ShownAs [] (textPieces cs) (showMarkup cs) := by
  have hshown := showParts_markupParts (Nat.le_refl cs.length) 0 [] []
  rwa [List.reverse_nil, addPlain_nil] at hshown

end QueryGate
