import QueryGate.Console.Markup
/-! Texts cut at their tags. Escaping a text puts backslashes before its tags and so makes no new ones, and the text is
cut at the same places as before. -/

namespace QueryGate

/-! Tags. -/

structure IsTagInside (inside : List Char) : Prop where
  starts : inside.head?.any isTagStart = true
  noOpening : '[' ∉ inside
  noClosing : ']' ∉ inside

theorem upToClosing_cons {c : Char} (hclosing : c ≠ ']') (hopening : c ≠ '[') (rest : List Char) :
    upToClosing (c :: rest) = (upToClosing rest).map fun (inside, after) => (c :: inside, after) := by
  rw [upToClosing]
  · exact hclosing
  · exact hopening

theorem upToClosing_eq_some {cs inside after : List Char} (h : upToClosing cs = some (inside, after)) :
    cs = inside ++ ']' :: after ∧ '[' ∉ inside ∧ ']' ∉ inside := by
  induction cs generalizing inside with
  | nil => cases h
  | cons c rest ih =>
    by_cases hclosing : c = ']'
    · subst hclosing
      cases h
      simp
    by_cases hopening : c = '['
    · subst hopening
      cases h
    rw [upToClosing_cons hclosing hopening] at h
    obtain ⟨found, hfound, heq⟩ := Option.map_eq_some_iff.mp h
    cases heq
    obtain ⟨rfl, hnone⟩ := ih hfound
    simp [hnone, Ne.symm hclosing, Ne.symm hopening]

theorem upToClosing_append {inside : List Char} (hopening : '[' ∉ inside) (hclosing : ']' ∉ inside) (after : List Char) :
    upToClosing (inside ++ ']' :: after) = some (inside, after) := by
  induction inside with
  | nil => rfl
  | cons c rest ih =>
    rw [List.mem_cons, not_or] at hopening hclosing
    rw [List.cons_append, upToClosing_cons (Ne.symm hclosing.1) (Ne.symm hopening.1), ih hopening.2 hclosing.2]
    rfl

theorem IsTagInside.cons_iff {c : Char} {rest : List Char} :
    IsTagInside (c :: rest) ↔ isTagStart c = true ∧ '[' ∉ rest ∧ ']' ∉ rest := by
  have hbrackets : isTagStart c = true → '[' ≠ c ∧ ']' ≠ c := by
    intro hc
    constructor
    · rintro rfl
      exact absurd hc (by decide)
    · rintro rfl
      exact absurd hc (by decide)
  constructor
  · rintro ⟨hstart, hopening, hclosing⟩
    rw [List.mem_cons, not_or] at hopening hclosing
    exact ⟨by simpa using hstart, hopening.2, hclosing.2⟩
  · rintro ⟨hstart, hopening, hclosing⟩
    obtain ⟨hleft, hright⟩ := hbrackets hstart
    exact ⟨by simpa using hstart, by simp [hopening, hleft], by simp [hclosing, hright]⟩

theorem tagAt?_eq_some_iff {cs inside after : List Char} :
    tagAt? cs = some (inside, after) ↔ cs = bracketedChars inside ++ after ∧ IsTagInside inside := by
  constructor
  · intro h
    unfold tagAt? at h
    split at h
    · next c rest =>
      split at h
      · next hc =>
        obtain ⟨found, hfound, heq⟩ := Option.map_eq_some_iff.mp h
        cases heq
        obtain ⟨hrest, hnone⟩ := upToClosing_eq_some hfound
        refine ⟨?_, IsTagInside.cons_iff.mpr ⟨hc, hnone⟩⟩
        simp [bracketedChars, hrest]
      · cases h
    · cases h
  · rintro ⟨rfl, hinside⟩
    cases inside with
    | nil => exact absurd hinside.starts (by decide)
    | cons c rest =>
      obtain ⟨hc, hopening, hclosing⟩ := IsTagInside.cons_iff.mp hinside
      simp [bracketedChars, tagAt?, hc, upToClosing_append hopening hclosing]

theorem not_mem_backslashes {c : Char} (h : c ≠ '\\') (n : Nat) : c ∉ backslashes n :=
  fun hmem => h (List.eq_of_mem_replicate hmem)

theorem takeWhile_backslash (cs : List Char) :
    cs.takeWhile (· = '\\') = backslashes (cs.takeWhile (· = '\\')).length := by
  refine List.eq_replicate_of_mem fun c hc => ?_
  simpa using List.all_eq_true.mp List.all_takeWhile c hc

/-- A tag with all the backslashes before it. -/
theorem escapedTag?_eq_some_iff {cs inside after : List Char} {count : Nat} :
    escapedTag? cs = some (count, inside, after) ↔
      cs = backslashes count ++ (bracketedChars inside ++ after) ∧ IsTagInside inside := by
  unfold escapedTag?
  constructor
  · intro h
    obtain ⟨found, hfound, heq⟩ := Option.map_eq_some_iff.mp h
    cases heq
    obtain ⟨hdrop, hinside⟩ := tagAt?_eq_some_iff.mp hfound
    refine ⟨?_, hinside⟩
    have hprefix : cs.takeWhile (· = '\\') <+: cs := List.takeWhile_prefix _
    rw [← takeWhile_backslash, ← hdrop]
    exact (List.prefix_iff_eq_append.mp hprefix).symm
  · rintro ⟨rfl, hinside⟩
    have htake : (backslashes count ++ (bracketedChars inside ++ after)).takeWhile (· = '\\') = backslashes count := by
      rw [List.takeWhile_append_of_pos (by simp [backslashes]), bracketedChars, List.cons_append,
        List.takeWhile_cons_of_neg (by decide), List.append_nil]
    dsimp only
    rw [htake, List.drop_left, tagAt?_eq_some_iff.mpr ⟨rfl, hinside⟩, backslashes, List.length_replicate]
    rfl

theorem escapedTag?_tag {inside : List Char} (h : IsTagInside inside) (count : Nat) (after : List Char) :
    escapedTag? (backslashes count ++ (bracketedChars inside ++ after)) = some (count, inside, after) :=
  escapedTag?_eq_some_iff.mpr ⟨rfl, h⟩

/-- A text is gone through from tag to tag, and from character to character where no tag begins. -/
theorem tagInduction {motive : List Char → Prop} (nil : motive [])
    (char : ∀ c rest, escapedTag? (c :: rest) = none → motive rest → motive (c :: rest))
    (tag : ∀ count inside after, IsTagInside inside → motive after →
      motive (backslashes count ++ (bracketedChars inside ++ after))) (cs : List Char) : motive cs := by
  induction hn : cs.length using Nat.strongRecOn generalizing cs with
  | ind n ih =>
    cases cs with
    | nil => exact nil
    | cons c rest =>
      rw [List.length_cons] at hn
      cases h : escapedTag? (c :: rest) with
      | none => exact char c rest h (ih rest.length (by omega) rest rfl)
      | some found =>
        obtain ⟨count, inside, after⟩ := found
        obtain ⟨htext, hinside⟩ := escapedTag?_eq_some_iff.mp h
        have hlength := congrArg List.length htext
        simp only [bracketedChars, List.length_cons, List.length_append] at hlength
        rw [htext]
        exact tag count inside after hinside (ih after.length (by omega) after rfl)

theorem tag_ne_nil (count : Nat) (inside after : List Char) :
    ∃ c rest, backslashes count ++ (bracketedChars inside ++ after) = c :: rest := by
  refine List.exists_cons_of_ne_nil ?_
  simp [bracketedChars]

theorem tag_length (count : Nat) (inside after : List Char) :
    after.length < (backslashes count ++ (bracketedChars inside ++ after)).length := by
  simp only [bracketedChars, List.length_append, List.length_cons]
  omega

/-! Pieces. -/

/-- A stretch without tags, or a tag with the backslashes before it. -/
inductive TextPiece
  | plain (cs : List Char)
  | tag (count : Nat) (inside : List Char)

/-- Puts plain text before pieces, as a part of the first if that is plain. -/
def addPlain (front : List Char) : List TextPiece → List TextPiece
  | .plain cs :: rest => .plain (front ++ cs) :: rest
  | pieces => if front.isEmpty then pieces else .plain front :: pieces

/-- The pieces of a text; the fuel is its length. -/
def piecesFrom : Nat → List Char → List TextPiece
  | fuel + 1, c :: rest =>
    match escapedTag? (c :: rest) with
    | some (count, inside, after) => .tag count inside :: piecesFrom fuel after
    | none => addPlain [c] (piecesFrom fuel rest)
  | _, _ => []

def textPieces (cs : List Char) : List TextPiece :=
  piecesFrom cs.length cs

theorem piecesFrom_char {c : Char} {rest : List Char} (h : escapedTag? (c :: rest) = none) (fuel : Nat) :
    piecesFrom (fuel + 1) (c :: rest) = addPlain [c] (piecesFrom fuel rest) := by
  rw [piecesFrom, h]

theorem piecesFrom_tag {inside : List Char} (h : IsTagInside inside) (fuel count : Nat) (after : List Char) :
    piecesFrom (fuel + 1) (backslashes count ++ (bracketedChars inside ++ after)) =
      .tag count inside :: piecesFrom fuel after := by
  obtain ⟨c, rest, htext⟩ := tag_ne_nil count inside after
  have htag := escapedTag?_tag h count after
  rw [htext] at htag ⊢
  rw [piecesFrom, htag]

theorem piecesFrom_eq {fuel : Nat} {cs : List Char} (h : cs.length ≤ fuel) : piecesFrom fuel cs = textPieces cs := by
  have hfuels : ∀ {n m : Nat}, cs.length ≤ n → cs.length ≤ m → piecesFrom n cs = piecesFrom m cs := by
    clear h
    induction cs using tagInduction with
    | nil =>
      intro n m _ _
      cases n <;> cases m <;> rfl
    | char c rest hnone ih =>
      intro n m hn hm
      obtain ⟨n, rfl⟩ := Nat.exists_eq_add_of_le' (Nat.le_trans (Nat.succ_pos _) hn)
      obtain ⟨m, rfl⟩ := Nat.exists_eq_add_of_le' (Nat.le_trans (Nat.succ_pos _) hm)
      rw [piecesFrom_char hnone, piecesFrom_char hnone, ih (Nat.le_of_succ_le_succ hn) (Nat.le_of_succ_le_succ hm)]
    | tag count inside after hinside ih =>
      intro n m hn hm
      have hlength := tag_length count inside after
      obtain ⟨n, rfl⟩ := Nat.exists_eq_add_of_le' (show 1 ≤ n by omega)
      obtain ⟨m, rfl⟩ := Nat.exists_eq_add_of_le' (show 1 ≤ m by omega)
      have hsame : piecesFrom n after = piecesFrom m after := ih (by omega) (by omega)
      rw [piecesFrom_tag hinside, piecesFrom_tag hinside, hsame]
  exact hfuels h (Nat.le_refl _)

theorem textPieces_char {c : Char} {rest : List Char} (h : escapedTag? (c :: rest) = none) :
    textPieces (c :: rest) = addPlain [c] (textPieces rest) :=
  piecesFrom_char h rest.length

theorem textPieces_tag {inside : List Char} (h : IsTagInside inside) (count : Nat) (after : List Char) :
    textPieces (backslashes count ++ (bracketedChars inside ++ after)) = .tag count inside :: textPieces after := by
  have hlength := tag_length count inside after
  obtain ⟨fuel, hfuel⟩ := Nat.exists_eq_add_of_le' (Nat.lt_of_le_of_lt (Nat.zero_le _) hlength)
  rw [textPieces, hfuel, piecesFrom_tag h, piecesFrom_eq (by omega)]

/-! Escaping. -/

def TextPiece.chars : TextPiece → List Char
  | .plain cs => cs
  | .tag count inside => backslashes count ++ bracketedChars inside

/-- An escaped tag has an odd number of backslashes before it. -/
def TextPiece.escaped : TextPiece → TextPiece
  | .plain cs => .plain cs
  | .tag count inside => .tag (2 * count + 1) inside

theorem flatMap_addPlain {g : TextPiece → List Char} (h : ∀ cs, g (.plain cs) = cs) (front : List Char)
    (pieces : List TextPiece) : (addPlain front pieces).flatMap g = front ++ pieces.flatMap g := by
  unfold addPlain
  split
  · simp [h]
  · by_cases hfront : front = []
    · simp [hfront]
    · simp [hfront, h]

theorem map_escaped_addPlain (front : List Char) (pieces : List TextPiece) :
    (addPlain front pieces).map TextPiece.escaped = addPlain front (pieces.map TextPiece.escaped) := by
  cases pieces with
  | nil =>
    unfold addPlain
    cases front <;> rfl
  | cons piece pieces =>
    cases piece with
    | plain cs => rfl
    | tag count inside =>
      unfold addPlain
      cases front <;> rfl

theorem flatMap_chars (cs : List Char) : (textPieces cs).flatMap TextPiece.chars = cs := by
  induction cs using tagInduction with
  | nil => rfl
  | char c rest h ih => rw [textPieces_char h, flatMap_addPlain fun _ => rfl, ih, List.singleton_append]
  | tag count inside after h ih => rw [textPieces_tag h, List.flatMap_cons, ih, TextPiece.chars, List.append_assoc]

/-- A text with its tags escaped. -/
def markupChars (cs : List Char) : List Char :=
  (textPieces cs).flatMap fun piece => piece.escaped.chars

theorem markupChars_char {c : Char} {rest : List Char} (h : escapedTag? (c :: rest) = none) :
    markupChars (c :: rest) = c :: markupChars rest := by
  rw [markupChars, textPieces_char h, flatMap_addPlain fun _ => rfl, List.singleton_append, markupChars]

theorem markupChars_tag {inside : List Char} (h : IsTagInside inside) (count : Nat) (after : List Char) :
    markupChars (backslashes count ++ (bracketedChars inside ++ after)) =
      backslashes (2 * count + 1) ++ (bracketedChars inside ++ markupChars after) := by
  rw [markupChars, textPieces_tag h, List.flatMap_cons, TextPiece.escaped, TextPiece.chars, List.append_assoc,
    markupChars]

theorem escapeTags_eq {fuel : Nat} {cs : List Char} (h : cs.length ≤ fuel) : escapeTags fuel cs = markupChars cs := by
  induction cs using tagInduction generalizing fuel with
  | nil => cases fuel <;> rfl
  | char c rest hnone ih =>
    obtain ⟨fuel, rfl⟩ := Nat.exists_eq_add_of_le' (Nat.le_trans (Nat.succ_pos _) h)
    rw [escapeTags, hnone, markupChars_char hnone, ih (Nat.le_of_succ_le_succ h)]
  | tag count inside after hinside ih =>
    have hlength := tag_length count inside after
    obtain ⟨fuel, rfl⟩ := Nat.exists_eq_add_of_le' (show 1 ≤ fuel by omega)
    obtain ⟨c, rest, htext⟩ := tag_ne_nil count inside after
    have htag := escapedTag?_tag hinside count after
    rw [markupChars_tag hinside, ← ih (show after.length ≤ fuel by omega)]
    rw [htext] at htag ⊢
    rw [escapeTags, htag]
    exact List.append_assoc ..

/-- A closing bracket that no bracket opens before is where it was. -/
theorem of_markupChars_eq {cs front back : List Char} (h : markupChars cs = front ++ ']' :: back)
    (hfront : '[' ∉ front) : ∃ rest, cs = front ++ ']' :: rest := by
  induction cs using tagInduction generalizing front with
  | nil => simp [markupChars, textPieces, piecesFrom] at h
  | char c rest hnone ih =>
    rw [markupChars_char hnone] at h
    cases front with
    | nil =>
      obtain ⟨rfl, -⟩ := List.cons.inj h
      exact ⟨rest, rfl⟩
    | cons d front =>
      obtain ⟨rfl, hrest⟩ := List.cons.inj h
      obtain ⟨more, rfl⟩ := ih hrest fun hd => hfront (List.mem_cons_of_mem c hd)
      exact ⟨more, rfl⟩
  | tag count inside after hinside ih =>
    rw [markupChars_tag hinside, bracketedChars, List.cons_append, List.append_eq_append_iff] at h
    exfalso
    rcases h with ⟨middle, rfl, h⟩ | ⟨middle, hslashes, h⟩
    · cases middle with
      | nil => cases h
      | cons d middle =>
        obtain ⟨rfl, -⟩ := List.cons.inj h
        exact hfront (by simp)
    · cases middle with
      | nil => cases h
      | cons d middle =>
        obtain ⟨rfl, -⟩ := List.cons.inj h
        exact not_mem_backslashes (by decide) (2 * count + 1) (show ']' ∈ _ by simp [hslashes])

/-- Escaping makes no tag at a place where there was none. -/
theorem escapedTag?_markupChars {cs : List Char} (h : escapedTag? cs = none) :
    escapedTag? (markupChars cs) = none := by
  induction cs using tagInduction with
  | nil => rfl
  | char c rest _ ih =>
    rw [markupChars_char h, Option.eq_none_iff_forall_ne_some]
    rintro ⟨count, inside, after⟩ htag
    obtain ⟨htext, hinside⟩ := escapedTag?_eq_some_iff.mp htag
    cases count with
    | zero =>
      obtain ⟨rfl, hrest⟩ := List.cons.inj htext
      obtain ⟨more, rfl⟩ := of_markupChars_eq (hrest.trans (List.append_assoc ..)) hinside.noOpening
      have hold := escapedTag?_tag hinside 0 more
      simp only [bracketedChars, List.cons_append, List.append_assoc] at hold
      cases h.symm.trans hold
    | succ count =>
      obtain ⟨rfl, hrest⟩ := List.cons.inj htext
      have hsome : escapedTag? (markupChars rest) = some (count, inside, after) :=
        hrest ▸ escapedTag?_tag hinside count after
      cases hold : escapedTag? rest with
      | none => cases (ih hold).symm.trans hsome
      | some found =>
        obtain ⟨htext, hfound⟩ := escapedTag?_eq_some_iff.mp (show _ = some (found.1, found.2.1, found.2.2) from hold)
        have hlonger := escapedTag?_tag hfound (found.1 + 1) found.2.2
        rw [backslashes, List.replicate_succ, List.cons_append, ← backslashes, ← htext] at hlonger
        cases h.symm.trans hlonger
  | tag count inside after hinside _ => cases h.symm.trans (escapedTag?_tag hinside count after)

theorem textPieces_markupChars (cs : List Char) :
    textPieces (markupChars cs) = (textPieces cs).map TextPiece.escaped := by
  induction cs using tagInduction with
  | nil => rfl
  | char c rest h ih =>
    have hnone := escapedTag?_markupChars h
    rw [markupChars_char h] at hnone ⊢
    rw [textPieces_char hnone, textPieces_char h, ih, map_escaped_addPlain]
  | tag count inside after h ih =>
    rw [markupChars_tag h, textPieces_tag h, textPieces_tag h, ih]
    rfl

end QueryGate
