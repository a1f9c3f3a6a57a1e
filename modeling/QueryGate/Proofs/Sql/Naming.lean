import QueryGate.Proofs.Sql.Lexing
import QueryGate.Proofs.Text.Spacing
import QueryGate.Service.Namespace
/-! Names as they stand in SQL text, and what they are read as. A name is read as it was given, but for one
kind of name: a bare name may end in a line feed, which is left out of the text. -/

namespace QueryGate

def losesFeed (name : String) : Bool :=
  isBareName name.toList && name.toList.getLast? = some '\n'

/-- The name that is read where a name is written. -/
def denotedName (name : String) : String :=
  if losesFeed name then String.ofList name.toList.dropLast else name

/-- Word characters, of which the first may start a name. -/
structure IsBareWord (w : List Char) : Prop where
  start : w.head?.any isNameStart = true
  word : ∀ c ∈ w, isWordChar c = true

/-- How a name may be spelled: bare, or between backticks with those inside doubled. -/
inductive Spells : List Char → String → Prop
  | bare {name : String} (h : IsBareWord name.toList) : Spells name.toList name
  | quoted (name : String) : Spells (backtickQuoted name.toList) name

/-! Bare names. -/

theorem isNameRest_of_word {w : List Char} (h : ∀ c ∈ w, isWordChar c = true) : isNameRest w = true := by
  fun_induction isNameRest w with
  | case1 => rfl
  | case2 => rfl
  | case3 c w hfeed ih =>
    obtain ⟨hc, hw⟩ := List.forall_mem_cons.mp h
    exact (Bool.and_eq_true _ _).mpr ⟨hc, ih hw⟩

theorem isNameRest_cases {cs : List Char} (h : isNameRest cs = true) :
    ∃ w feed, cs = w ++ feed ∧ (∀ c ∈ w, isWordChar c = true) ∧ (feed = [] ∨ feed = ['\n']) := by
  fun_induction isNameRest cs with
  | case1 => exact ⟨[], [], rfl, by simp, .inl rfl⟩
  | case2 => exact ⟨[], ['\n'], rfl, by simp, .inr rfl⟩
  | case3 c cs hfeed ih =>
    obtain ⟨hc, hcs⟩ := (Bool.and_eq_true _ _).mp h
    obtain ⟨w, feed, rfl, hw, hend⟩ := ih hcs
    exact ⟨c :: w, feed, rfl, List.forall_mem_cons.mpr ⟨hc, hw⟩, hend⟩

theorem IsBareWord.isBareName {w : List Char} (h : IsBareWord w) : isBareName w = true := by
  cases w with
  | nil => simpa using h.start
  | cons c w =>
    have hstart : isNameStart c = true := by simpa using h.start
    exact (Bool.and_eq_true _ _).mpr
      ⟨hstart, isNameRest_of_word fun d hd => h.word d (List.mem_cons_of_mem _ hd)⟩

theorem isBareName_cases {cs : List Char} (h : isBareName cs = true) :
    ∃ w feed, cs = w ++ feed ∧ IsBareWord w ∧ (feed = [] ∨ feed = ['\n']) := by
  cases cs with
  | nil => simp [isBareName] at h
  | cons c cs =>
    obtain ⟨hstart, hrest⟩ := (Bool.and_eq_true _ _).mp h
    obtain ⟨w, feed, rfl, hw, hend⟩ := isNameRest_cases hrest
    exact ⟨c :: w, feed, rfl, ⟨by simpa using hstart,
      List.forall_mem_cons.mpr ⟨(IsWordStart.of_isNameStart hstart).word, hw⟩⟩, hend⟩

theorem IsBareWord.head {w : List Char} (h : IsBareWord w) : w.head?.any (!isBlank ·) = true := by
  cases w with
  | nil => simpa using h.start
  | cons c w => simp [isBlank_of_isWordChar (h.word c List.mem_cons_self)]

theorem IsBareWord.endsTight {w : List Char} (h : IsBareWord w) : EndsTight w := by
  unfold EndsTight
  cases hlast : w.getLast? with
  | none => simpa [List.getLast?_eq_none_iff.mp hlast] using h.head
  | some c => simp [isBlank_of_isWordChar (h.word c (List.mem_of_getLast? hlast))]

/-- A bare name is what it is read as, with a line feed behind it or without. -/
theorem denotedName_of_bare {name : String} (h : isBareName name.toList = true) :
    IsBareWord (denotedName name).toList ∧
      ∃ feed, name.toList = (denotedName name).toList ++ feed ∧ ∀ c ∈ feed, isBlank c = true := by
  obtain ⟨w, feed, hname, hw, hend⟩ := isBareName_cases h
  have hlast : w.getLast? ≠ some '\n' := fun hfeed => by
    have hword := hw.word _ (List.mem_of_getLast? hfeed)
    exact absurd hword (by decide)
  have hdenoted : (denotedName name).toList = w := by
    unfold denotedName losesFeed
    rw [h]
    rcases hend with rfl | rfl
    · simp [hname, hlast]
    · simp [hname]
  refine ⟨hdenoted ▸ hw, feed, by rw [hdenoted, hname], ?_⟩
  rcases hend with rfl | rfl
  · exact List.forall_mem_nil _
  · exact forall_mem_of_all (by decide)

theorem denotedName_of_not_bare {name : String} (h : isBareName name.toList = false) :
    denotedName name = name := by
  simp [denotedName, losesFeed, h]

/-! The text of a name. -/

theorem nameText_of_bare {name : String} (h : isBareName name.toList = true) :
    nameText name = (denotedName name).toList := by
  obtain ⟨hword, feed, hname, hfeed⟩ := denotedName_of_bare h
  unfold nameText nameChars
  rw [if_pos h, hname]
  exact trimBlanks_append hword.head hword.endsTight hfeed

theorem nameText_of_not_bare {name : String} (h : isBareName name.toList = false) :
    nameText name = backtickQuoted name.toList := by
  unfold nameText nameChars
  rw [if_neg (Bool.eq_false_iff.mp h)]
  exact trimBlanks_eq_self rfl ((endsTight_symbol (by decide) _).cons _)

theorem spells_nameText (name : String) : Spells (nameText name) (denotedName name) := by
  cases h : isBareName name.toList with
  | true =>
    rw [nameText_of_bare h]
    exact .bare (denotedName_of_bare h).1
  | false =>
    rw [nameText_of_not_bare h, denotedName_of_not_bare h]
    exact .quoted name

/-- Names that are read as the same name are spelled the same. -/
theorem nameText_denotedName (name : String) : nameText (denotedName name) = nameText name := by
  cases h : isBareName name.toList with
  | true =>
    have hword := (denotedName_of_bare h).1
    rw [nameText_of_bare h, nameText, nameChars, if_pos hword.isBareName]
    exact trimBlanks_eq_self hword.head hword.endsTight
  | false => rw [denotedName_of_not_bare h]

theorem pathChars_cons (name next : String) (rest : List String) :
    pathChars (name :: next :: rest) = nameText name ++ '.' :: pathChars (next :: rest) := by
  simp [pathChars]

/-! Reading names. -/

theorem readQuoted_sound {n : Nat} {cs name rest : List Char}
    (h : readQuoted '\x60' false n cs = some (name, rest)) :
    cs = doubleBackticks name ++ '\x60' :: rest := by
  induction n generalizing cs name with
  | zero => simp [readQuoted] at h
  | succ n ih =>
    cases cs with
    | nil => simp [readQuoted] at h
    | cons c cs =>
      by_cases hc : c = '\x60'
      · subst hc
        cases cs with
        | nil =>
          obtain ⟨rfl, rfl⟩ : [] = name ∧ [] = rest := by simpa [readQuoted] using h
          rfl
        | cons d cs =>
          by_cases hd : d = '\x60'
          · subst hd
            obtain ⟨name', hread, rfl⟩ : ∃ name', readQuoted '\x60' false n cs = some (name', rest) ∧
                '\x60' :: name' = name := by simpa [readQuoted] using h
            simp [ih hread, doubleBackticks]
          · obtain ⟨rfl, rfl⟩ : [] = name ∧ d :: cs = rest := by simpa [readQuoted, hd] using h
            rfl
      · obtain ⟨name', hread, rfl⟩ : ∃ name', readQuoted '\x60' false n cs = some (name', rest) ∧
            c :: name' = name := by simpa [readQuoted, hc] using h
        simp [ih hread, doubleBackticks, hc]

def endsBareName (c : Char) : Bool :=
  isBlank c || c = '.' || c = '\x60'

theorem endsBareName_of_isWordChar {c : Char} (h : isWordChar c = true) : endsBareName c = false := by
  have hpoint : c ≠ '.' := by
    rintro rfl
    exact absurd h (by decide)
  have hquote : c ≠ '\x60' := by
    rintro rfl
    exact absurd h (by decide)
  simp [endsBareName, isBlank_of_isWordChar h, hpoint, hquote]

/-- A rule of the dialect about the names that may stand bare. It lets words stand bare that start with an
underscore or a plain letter. Names that start with a digit or that hold other signs may be bare or not. -/
structure BareRule where
  accepts : List Char → Bool
  word {w : List Char} : IsBareWord w → accepts w = true
  nonempty : accepts [] = false
  unbroken {w : List Char} : accepts w = true → ∀ c ∈ w, endsBareName c = false

/-- The rule that lets every run of word characters stand bare. -/
def BareRule.wordRuns : BareRule where
  accepts w := !w.isEmpty && w.all isWordChar
  word {w} h := by
    have hne : w ≠ [] := by
      rintro rfl
      simpa using h.start
    simpa [hne] using h.word
  nonempty := rfl
  unbroken {w} h c hc := by
    obtain ⟨-, hword⟩ := (Bool.and_eq_true _ _).mp h
    exact endsBareName_of_isWordChar (List.all_eq_true.mp hword c hc)

namespace BareRule

variable (rule : BareRule)

/-- Reads the name at the start of a text, with the characters behind it. -/
def readName? (cs : List Char) : Option (String × List Char) :=
  if cs.head? = some '\x60' then
    (readQuoted '\x60' false cs.length cs.tail).map (fun (name, rest) => (String.ofList name, rest))
  else
    let name := cs.takeWhile (!endsBareName ·)
    if rule.accepts name then some (String.ofList name, cs.dropWhile (!endsBareName ·)) else none

/-- Reads names with points between them, up to the end of the text. -/
def readNames? : Nat → List Char → Option (List String)
  | 0, _ => none
  | fuel + 1, cs =>
    match rule.readName? cs with
    | some (name, []) => some [name]
    | some (name, '.' :: rest) => (readNames? fuel rest).map (name :: ·)
    | _ => none

def readPath? (cs : List Char) : Option (List String) :=
  rule.readNames? (cs.length + 1) cs

theorem readName?_bare {w cs : List Char} (hw : rule.accepts w = true)
    (hcs : cs.head?.all endsBareName = true) : rule.readName? (w ++ cs) = some (String.ofList w, cs) := by
  have hopen : ∀ c ∈ w, (!endsBareName c) = true := fun c hc => by simp [rule.unbroken hw c hc]
  have hhead : (w ++ cs).head? ≠ some '\x60' := by
    cases w with
    | nil => exact absurd hw (by simp [rule.nonempty])
    | cons c w =>
      intro hquote
      obtain rfl : c = '\x60' := by simpa using hquote
      exact absurd (rule.unbroken hw _ List.mem_cons_self) (by decide)
  have hstop : cs.takeWhile (!endsBareName ·) = [] ∧ cs.dropWhile (!endsBareName ·) = cs := by
    cases cs with
    | nil => exact ⟨rfl, rfl⟩
    | cons c cs =>
      have hc : endsBareName c = true := by simpa using hcs
      simp [hc]
  unfold readName?
  rw [if_neg hhead, List.takeWhile_append_of_pos hopen, List.dropWhile_append_of_pos hopen, hstop.1,
    hstop.2, List.append_nil]
  simp [hw]

theorem readName?_quoted (name : String) {cs : List Char} (hcs : cs.head? ≠ some '\x60') :
    rule.readName? (backtickQuoted name.toList ++ cs) = some (name, cs) := by
  have hread := readQuoted_backticks name.toList hcs
    (n := (backtickQuoted name.toList ++ cs).length) (by
      simp only [backtickQuoted, List.length_append, List.length_cons]
      omega)
  have hlist : (backtickQuoted name.toList ++ cs).tail = doubleBackticks name.toList ++ '\x60' :: cs := by
    simp [backtickQuoted]
  have hhead : (backtickQuoted name.toList ++ cs).head? = some '\x60' := rfl
  unfold readName?
  rw [if_pos hhead, hlist, hread]
  simp

/-- A name is read where it is spelled, in front of a point or at the end. -/
theorem readName?_spells {spelled : List Char} {name : String} (h : Spells spelled name) (cs : List Char)
    (hcs : cs.head?.all (· = '.') = true) : rule.readName? (spelled ++ cs) = some (name, cs) := by
  have hend : cs.head?.all endsBareName = true ∧ cs.head? ≠ some '\x60' := by
    cases cs with
    | nil => simp
    | cons c cs =>
      obtain rfl : c = '.' := by simpa using hcs
      exact ⟨show endsBareName '.' = true by decide, by simp⟩
  cases h with
  | bare h => simpa using rule.readName?_bare (rule.word h) hend.1
  | quoted => exact rule.readName?_quoted name hend.2

theorem readName?_sound {cs rest : List Char} {name : String}
    (h : rule.readName? cs = some (name, rest)) :
    rule.accepts name.toList = true ∨ cs = backtickQuoted name.toList ++ rest := by
  unfold readName? at h
  split at h
  · rename_i hhead
    obtain ⟨⟨found, rest'⟩, hread, heq⟩ := Option.map_eq_some_iff.mp h
    obtain ⟨rfl, rfl⟩ := Prod.mk.inj heq
    obtain ⟨tail, rfl⟩ := List.head?_eq_some_iff.mp hhead
    right
    have hsound := readQuoted_sound hread
    rw [List.tail_cons] at hsound
    simp [backtickQuoted, hsound]
  · dsimp only at h
    split at h
    · rename_i haccepts
      obtain ⟨rfl, -⟩ := Prod.mk.inj (Option.some.inj h)
      left
      rwa [String.toList_ofList]
    · cases h

theorem readNames?_pathChars {names : List String} (hne : names ≠ []) {n : Nat} (hfuel : names.length ≤ n) :
    rule.readNames? n (pathChars names) = some (names.map denotedName) := by
  induction names generalizing n with
  | nil => exact absurd rfl hne
  | cons name names ih =>
    obtain ⟨n, rfl⟩ : ∃ k, n = k + 1 := ⟨n - 1, by simp only [List.length_cons] at hfuel; omega⟩
    cases names with
    | nil =>
      have hread := rule.readName?_spells (spells_nameText name) [] rfl
      rw [List.append_nil] at hread
      simp [pathChars, readNames?, hread]
    | cons next rest =>
      have hread := rule.readName?_spells (spells_nameText name)
        ('.' :: pathChars (next :: rest)) rfl
      rw [pathChars_cons, readNames?, hread]
      simp [ih (by simp) (Nat.le_of_succ_le_succ hfuel)]

/-- Whatever the rule, the names of a path are read from its text. -/
theorem readPath?_pathChars {names : List String} (hne : names ≠ []) :
    rule.readPath? (pathChars names) = some (names.map denotedName) := by
  refine rule.readNames?_pathChars hne ?_
  have hlength : ∀ names : List String, names.length ≤ (pathChars names).length + 1 := by
    intro names
    induction names with
    | nil => simp
    | cons name names ih =>
      cases names with
      | nil => simp
      | cons next rest =>
        rw [pathChars_cons]
        simp only [List.length_append, List.length_cons] at ih ⊢
        omega
  exact hlength names

end BareRule

/-- Paths have the same text exactly if their names are read the same. -/
theorem pathChars_eq_iff {names names' : List String} (h : names ≠ []) (h' : names' ≠ []) :
    pathChars names = pathChars names' ↔ names.map denotedName = names'.map denotedName := by
  constructor
  · intro heq
    have hread := BareRule.wordRuns.readPath?_pathChars h
    rw [heq, BareRule.wordRuns.readPath?_pathChars h'] at hread
    exact (Option.some.inj hread).symm
  · intro heq
    have hspelled : ∀ names : List String, pathChars names = pathChars (names.map denotedName) := fun names => by
      rw [pathChars, pathChars, List.map_map]
      exact congrArg _ (List.map_congr_left fun name _ => (nameText_denotedName name).symm)
    rw [hspelled names, heq, ← hspelled names']

end QueryGate
