import QueryGate.Console.Emoji
/-! What pictures cost a text. Each takes the colons round its name away and brings none, so that a text that keeps its
colons has no picture put into it. -/

namespace QueryGate

/-- Marks that no picture has in it. -/
def IsUndrawn (mark : Char) : Prop :=
  mark = ':' ∨ mark = '['

theorem not_mem_emojiRows {row : String × List Nat} (h : row ∈ emojiRows) {mark : Char} (hmark : IsUndrawn mark) :
    mark ∉ row.2.map Char.ofNat := by
  have hall : (emojiRows.all fun row => (row.2.map Char.ofNat).all fun c => c ≠ ':' && c ≠ '[') = true := by
    decide +kernel
  intro hmem
  have hrow := List.all_eq_true.mp (List.all_eq_true.mp hall row h) mark hmem
  rcases hmark with rfl | rfl
  · cases hrow
  · cases hrow

theorem not_mem_emoji? {name picture : List Char} (h : emoji? name = some picture) {mark : Char}
    (hmark : IsUndrawn mark) : mark ∉ picture := by
  obtain ⟨codes, hlookup, rfl⟩ := Option.map_eq_some_iff.mp h
  obtain ⟨before, after, hrows, -⟩ := List.lookup_eq_some_iff.mp hlookup
  have hrow : (String.ofList (lowerChars name), codes) ∈ emojiRows := by simp [hrows]
  exact not_mem_emojiRows hrow hmark

theorem not_mem_suffix (variant : EmojiVariant) {mark : Char} (hmark : IsUndrawn mark) : mark ∉ variant.suffix := by
  rcases hmark with rfl | rfl <;> cases variant <;> decide

/-- A name takes a part of the text that ends in a colon. -/
theorem emojiName?_spec {cs name after : List Char} {variant : EmojiVariant}
    (h : emojiName? cs = some (name, variant, after)) : ∃ front, cs = front ++ ':' :: after := by
  induction cs generalizing name with
  | nil => cases h
  | cons c rest ih =>
    have hword : ∀ {word : String} (front : List Char), word.toList = front ++ [':'] →
        word.toList.isPrefixOf (c :: rest) = true →
        ∃ front, c :: rest = front ++ ':' :: (c :: rest).drop word.toList.length := by
      intro word front hchars hprefix
      obtain ⟨behind, hbehind⟩ := List.isPrefixOf_iff_prefix.mp hprefix
      refine ⟨front, ?_⟩
      rw [← hbehind, List.drop_left, hchars, List.append_assoc]
      rfl
    unfold emojiName? at h
    split at h
    · next hemoji =>
      cases h
      exact hword "-emoji".toList rfl hemoji
    · split at h
      · next htext =>
        cases h
        exact hword "-text".toList rfl htext
      · split at h
        · next hcolon =>
          cases h
          exact ⟨[], by rw [hcolon]; rfl⟩
        · split at h
          · cases h
          · obtain ⟨found, hfound, heq⟩ := Option.map_eq_some_iff.mp h
            cases heq
            obtain ⟨front, hfront⟩ := ih hfound
            exact ⟨c :: front, by rw [hfront]; rfl⟩

/-- What is done at the start of a text: a character is passed over, or a name between two colons is, or it is drawn. -/
inductive EmojiStep (fuel : Nat) : List Char → List Char → Prop
  | char (c : Char) (rest : List Char) : EmojiStep fuel (c :: rest) (c :: replaceEmoji fuel rest)
  | name (front after : List Char) :
    EmojiStep fuel (':' :: (front ++ ':' :: after)) (':' :: (front ++ ':' :: replaceEmoji fuel after))
  | drawn (front after : List Char) {picture : List Char} (h : ∀ mark, IsUndrawn mark → mark ∉ picture) :
    EmojiStep fuel (':' :: (front ++ ':' :: after)) (picture ++ replaceEmoji fuel after)

theorem replaceEmoji_step (fuel : Nat) (c : Char) (rest : List Char) :
    EmojiStep fuel (c :: rest) (replaceEmoji (fuel + 1) (c :: rest)) := by
  by_cases hc : c = ':'
  · subst hc
    rw [replaceEmoji]
    split
    · exact .char ':' rest
    · next name variant after hname =>
      obtain ⟨front, rfl⟩ := emojiName?_spec hname
      split
      · next picture hpicture =>
        refine .drawn front after fun mark hmark => ?_
        simp [not_mem_emoji? hpicture hmark, not_mem_suffix variant hmark]
      · have htake : (front ++ ':' :: after).take ((front ++ ':' :: after).length - after.length) = front ++ [':'] := by
          rw [List.append_cons, List.length_append, Nat.add_sub_cancel, List.take_left]
        rw [htake, List.cons_append, List.append_assoc]
        exact .name front after
  · rw [replaceEmoji]
    · exact .char c rest
    · simpa using hc

theorem count_replaceEmoji_le (fuel : Nat) (cs : List Char) {mark : Char} (hmark : IsUndrawn mark) :
    (replaceEmoji fuel cs).count mark ≤ cs.count mark := by
  induction fuel generalizing cs with
  | zero => exact Nat.le_refl _
  | succ fuel ih =>
    cases cs with
    | nil => exact Nat.le_refl _
    | cons c rest =>
      have hstep := replaceEmoji_step fuel c rest
      generalize replaceEmoji (fuel + 1) (c :: rest) = shown at hstep ⊢
      cases hstep with
      | char =>
        have hrest := ih rest
        simp only [List.count_cons]
        omega
      | name front after =>
        have hrest := ih after
        simp only [List.count_cons, List.count_append]
        omega
      | drawn front after h =>
        have hrest := ih after
        have hnone := List.count_eq_zero.mpr (h mark hmark)
        simp only [List.count_cons, List.count_append]
        omega

/-- A text that keeps its colons is left as it is. -/
theorem replaceEmoji_eq_self {fuel : Nat} {cs : List Char} (h : (replaceEmoji fuel cs).count ':' = cs.count ':') :
    replaceEmoji fuel cs = cs := by
  induction fuel generalizing cs with
  | zero => rfl
  | succ fuel ih =>
    cases cs with
    | nil => rfl
    | cons c rest =>
      have hstep := replaceEmoji_step fuel c rest
      generalize replaceEmoji (fuel + 1) (c :: rest) = shown at hstep h ⊢
      cases hstep with
      | char =>
        rw [ih (by simpa only [List.count_cons, Nat.add_right_cancel_iff] using h)]
      | name front after =>
        rw [ih (by simpa only [List.count_cons, List.count_append, Nat.add_right_cancel_iff, Nat.add_left_cancel_iff] using h)]
      | drawn front after hpicture =>
        have hrest := count_replaceEmoji_le fuel after (.inl rfl)
        have hnone := List.count_eq_zero.mpr (hpicture ':' (.inl rfl))
        simp only [List.count_cons, List.count_append, beq_self_eq_true, if_true] at h
        omega

theorem replaceEmoji_of_not_mem {fuel : Nat} {cs : List Char} (h : ':' ∉ cs) : replaceEmoji fuel cs = cs := by
  have hnone := List.count_eq_zero.mpr h
  have hle := count_replaceEmoji_le fuel cs (.inl rfl)
  exact replaceEmoji_eq_self (by omega)

end QueryGate
