import QueryGate.Failure
import QueryGate.Text.Blank
/-! The blanks of a text. What is left of it when it is trimmed is the one part that ends tight with only what is
trimmed behind it, and the message of a failure is made of words with single spaces between them. -/

namespace QueryGate

/-! Trimming. A text that has no blank at its ends is left as it is. -/

theorem trimEndOf_eq_iff {p : Char → Bool} {cs body : List Char} : trimEndOf p cs = body ↔
    ∃ closing, cs = body ++ closing ∧ (∀ c ∈ closing, p c = true) ∧ body.getLast?.any p = false := by
  constructor
  · rintro rfl
    refine ⟨(cs.reverse.takeWhile p).reverse, ?_, ?_, ?_⟩
    · rw [trimEndOf, ← List.reverse_append, List.takeWhile_append_dropWhile, List.reverse_reverse]
    · intro c hc
      exact List.all_eq_true.mp List.all_takeWhile c (List.mem_reverse.mp hc)
    · rw [trimEndOf, List.getLast?_reverse]
      have hhead := List.head?_dropWhile_not p cs.reverse
      cases hfirst : (cs.reverse.dropWhile p).head? with
      | none => rfl
      | some c => simpa [hfirst] using hhead
  · rintro ⟨closing, rfl, hclosing, hlast⟩
    have hdrop : body.reverse.dropWhile p = body.reverse := by
      cases hrev : body.reverse with
      | nil => rfl
      | cons c rest =>
        have hc : body.getLast? = some c := by rw [← List.head?_reverse, hrev, List.head?_cons]
        rw [hc] at hlast
        exact List.dropWhile_cons_of_neg (by simpa using hlast)
    rw [trimEndOf, List.reverse_append,
      List.dropWhile_append_of_pos fun c hc => hclosing c (List.mem_reverse.mp hc), hdrop,
      List.reverse_reverse]

/-- The text ends in a character that is not blank. -/
def EndsTight (cs : List Char) : Prop :=
  cs.getLast?.any (!isBlank ·) = true

theorem EndsTight.append {b : List Char} (h : EndsTight b) (a : List Char) : EndsTight (a ++ b) := by
  unfold EndsTight at *
  rw [List.getLast?_append]
  cases hb : b.getLast? with
  | none => simp [hb] at h
  | some c => simpa [hb] using h

theorem EndsTight.cons {b : List Char} (h : EndsTight b) (c : Char) : EndsTight (c :: b) :=
  h.append [c]

/-- A text with an optional part behind it. -/
theorem EndsTight.behind {a b : List Char} (ha : EndsTight a) (hb : b = [] ∨ EndsTight b) :
    EndsTight (a ++ b) := by
  rcases hb with rfl | hb
  · rwa [List.append_nil]
  · exact hb.append a

theorem endsTight_symbol {c : Char} (hc : isBlank c = false) (a : List Char) : EndsTight (a ++ [c]) :=
  EndsTight.append (by simp [EndsTight, hc]) a

theorem trimBlanks_append {cs blanks : List Char} (hfirst : cs.head?.any (!isBlank ·) = true)
    (h : EndsTight cs) (hblanks : ∀ c ∈ blanks, isBlank c = true) : trimBlanks (cs ++ blanks) = cs := by
  have hstart : trimStartOf isBlank (cs ++ blanks) = cs ++ blanks := by
    cases cs with
    | nil => simp at hfirst
    | cons c cs =>
      have hc : isBlank c = false := by simpa using hfirst
      simp [trimStartOf, hc]
  have hend : cs.getLast?.any isBlank = false := by
    obtain ⟨d, hd, hblank⟩ := (Option.any_eq_true _ _).mp h
    simpa [hd] using hblank
  rw [trimBlanks, trimOf, hstart]
  exact trimEndOf_eq_iff.mpr ⟨blanks, rfl, hblanks, hend⟩

theorem trimBlanks_eq_self {cs : List Char} (hfirst : cs.head?.any (!isBlank ·) = true)
    (h : EndsTight cs) : trimBlanks cs = cs := by
  have htrim := trimBlanks_append hfirst h (List.forall_mem_nil _)
  rwa [List.append_nil] at htrim

/-! Texts on a single line. No character that ends a line stands in a word. -/

/-- Line feeds and returns, tabulations down the page, form feeds, three information separators, and
the ends of lines and paragraphs of other scripts. -/
def lineBreakRanges : Ranges := [(0x0a, 0x0d), (0x1c, 0x1e), (0x85, 0x85), (0x2028, 0x2029)]

def isLineBreak (c : Char) : Bool :=
  lineBreakRanges.has c

def IsSingleLine (s : String) : Prop :=
  ∀ c ∈ s.toList, isLineBreak c = false

instance (s : String) : Decidable (IsSingleLine s) :=
  decidable_of_iff (s.toList.all (!isLineBreak ·) = true) (by simp [IsSingleLine])

/-- For a text that is written out: its characters need not be decoded first. -/
theorem isSingleLine_ofList {cs : List Char} (h : cs.all (!isLineBreak ·) = true) :
    IsSingleLine (String.ofList cs) := by
  intro c hc
  rw [String.toList_ofList] at hc
  simpa using List.all_eq_true.mp h c hc

theorem isBlank_of_isLineBreak {c : Char} (h : isLineBreak c = true) : isBlank c = true := by
  unfold isLineBreak isBlank Ranges.has lineBreakRanges blankRanges at *
  generalize c.toNat = n at *
  simp only [Ranges.covers] at *
  grind

theorem IsSingleLine.append {s t : String} (hs : IsSingleLine s) (ht : IsSingleLine t) :
    IsSingleLine (s ++ t) := by
  intro c hc
  rw [String.toList_append, List.mem_append] at hc
  exact hc.elim (hs c) (ht c)

theorem isSingleLine_append_right {s t : String} (hs : IsSingleLine s) :
    IsSingleLine (s ++ t) ↔ IsSingleLine t := by
  refine ⟨fun h c hc => h c ?_, hs.append⟩
  rw [String.toList_append]
  exact List.mem_append_right _ hc

theorem not_isBlank_of_mem_wordsFrom {word cs found : List Char} (hword : ∀ c ∈ word, isBlank c = false)
    (h : found ∈ wordsFrom word cs) : ∀ c ∈ found, isBlank c = false := by
  have hreverse : ∀ c ∈ word.reverse, isBlank c = false := fun c hc => hword c (List.mem_reverse.mp hc)
  induction cs generalizing word with
  | nil =>
    unfold wordsFrom at h
    split at h
    · cases h
    · rwa [List.mem_singleton.mp h]
  | cons c rest ih =>
    unfold wordsFrom at h
    split at h
    · split at h
      · exact ih (List.forall_mem_nil _) h (List.forall_mem_nil _)
      · rcases List.mem_cons.mp h with rfl | h
        · exact hreverse
        · exact ih (List.forall_mem_nil _) h (List.forall_mem_nil _)
    · rename_i hc
      have hnext : ∀ d ∈ c :: word, isBlank d = false :=
        List.forall_mem_cons.mpr ⟨Bool.eq_false_iff.mpr hc, hword⟩
      exact ih hnext h fun d hd => hnext d (List.mem_reverse.mp hd)

theorem mem_intercalate_singleton {c sep : Char} {parts : List (List Char)}
    (h : c ∈ [sep].intercalate parts) : c = sep ∨ ∃ part ∈ parts, c ∈ part := by
  obtain ⟨piece, hpiece, hc⟩ := List.mem_flatten.mp h
  clear h
  induction parts with
  | nil => cases hpiece
  | cons part rest ih =>
    cases rest with
    | nil => exact .inr ⟨part, List.mem_cons_self, List.mem_singleton.mp hpiece ▸ hc⟩
    | cons next rest =>
      rcases List.mem_cons.mp hpiece with rfl | hpiece
      · exact .inr ⟨piece, List.mem_cons_self, hc⟩
      · rcases List.mem_cons.mp hpiece with rfl | hpiece
        · exact .inl (List.mem_singleton.mp hc)
        · obtain heq | ⟨other, hother, hc⟩ := ih hpiece
          · exact .inl heq
          · exact .inr ⟨other, List.mem_cons_of_mem _ hother, hc⟩

theorem isSingleLine_singleSpaced (s : String) : IsSingleLine (singleSpaced s) := by
  intro c hc
  refine Bool.eq_false_iff.mpr fun hbreak => ?_
  rw [singleSpaced, String.toList_intercalate] at hc
  rcases mem_intercalate_singleton hc with rfl | ⟨part, hpart, hc⟩
  · exact absurd hbreak (by decide)
  · simp only [words, List.map_map, List.mem_map, Function.comp_apply, String.toList_ofList] at hpart
    obtain ⟨found, hfound, rfl⟩ := hpart
    have hblank := not_isBlank_of_mem_wordsFrom (List.forall_mem_nil _) hfound c hc
    rw [isBlank_of_isLineBreak hbreak] at hblank
    cases hblank

theorem Failure.isSingleLine_safe (f : Failure) : IsSingleLine f.safe :=
  isSingleLine_singleSpaced f.message

end QueryGate
