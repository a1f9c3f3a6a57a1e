import Mathlib.Data.List.Infix
import QueryGate.Json.Reader
import QueryGate.Proofs.Session
/-! Texts beyond the limits of the reader. It goes through a text from its front to its back. So an integer that is
too long stands in the text with all its digits, and what is too deep with all the brackets that are opened. -/

namespace QueryGate

def isOpeningBracket (c : Char) : Bool :=
  c = '[' || c = '\x7b'

/-- What a text must hold that goes beyond a limit of the reader, with so much room for brackets. -/
def JsonFault.IsIn (room : Nat) (cs : List Char) : JsonFault → Prop
  | .longInteger count => maxIntegerDigits < count ∧
    ∃ digits, digits <:+: cs ∧ digits.length = count ∧ ∀ c ∈ digits, isAsciiDigit c = true
  | .deepArray | .deepObject => room < cs.countP isOpeningBracket
  | _ => True

theorem JsonFault.IsIn.of_isSuffix {fault : JsonFault} {room : Nat} {cs rest : List Char} (h : fault.IsIn room rest)
    (hrest : rest <:+ cs) : fault.IsIn room cs := by
  have hcount : rest.countP isOpeningBracket ≤ cs.countP isOpeningBracket := hrest.sublist.countP_le
  cases fault with
  | longInteger count =>
    obtain ⟨hlong, digits, hdigits, hlength, hall⟩ := h
    exact ⟨hlong, digits, hdigits.trans hrest.isInfix, hlength, hall⟩
  | deepArray => exact h.trans_le hcount
  | deepObject => exact h.trans_le hcount
  | _ => trivial

theorem JsonFault.IsIn.bracketed {fault : JsonFault} {room : Nat} {c : Char} {cs : List Char}
    (h : fault.IsIn (room - 1) cs) (hc : isOpeningBracket c = true) : fault.IsIn room (c :: cs) := by
  have hcount : (c :: cs).countP isOpeningBracket = cs.countP isOpeningBracket + 1 := List.countP_cons_of_pos hc
  cases fault with
  | longInteger count =>
    obtain ⟨hlong, digits, hdigits, hlength, hall⟩ := h
    exact ⟨hlong, digits, hdigits.trans (List.suffix_cons c cs).isInfix, hlength, hall⟩
  | deepArray =>
    simp only [IsIn, hcount] at h ⊢
    omega
  | deepObject =>
    simp only [IsIn, hcount] at h ⊢
    omega
  | _ => trivial

theorem lt_countP_isOpeningBracket {room : Nat} {c : Char} {cs : List Char} (hroom : room = 0)
    (hc : isOpeningBracket c = true) : room < (c :: cs).countP isOpeningBracket := by
  rw [List.countP_cons_of_pos hc]
  omega

/-- The reader leaves the end of a text, or stops with a fault that the text accounts for. -/
def ReadsOn {α : Type} (room : Nat) (cs : List Char) : Except JsonStop (α × List Char) → Prop
  | .ok found => found.2 <:+ cs
  | .error stop => stop.fault.IsIn room cs

namespace ReadsOn

variable {α β : Type} {room : Nat} {cs rest : List Char}

theorem of_isSuffix {result : Except JsonStop (α × List Char)} (h : ReadsOn room rest result) (hrest : rest <:+ cs) :
    ReadsOn room cs result := by
  cases result with
  | ok found => exact h.trans hrest
  | error stop => exact JsonFault.IsIn.of_isSuffix h hrest

theorem bind {first : Except JsonStop (α × List Char)} {next : α × List Char → Except JsonStop (β × List Char)}
    (h : ReadsOn room cs first) (hnext : ∀ x rest, rest <:+ cs → ReadsOn room rest (next (x, rest))) :
    ReadsOn room cs (first >>= next) := by
  cases first with
  | ok found => exact (hnext found.1 found.2 h).of_isSuffix h
  | error stop => exact h

/-- The brackets round a text are not inside it. -/
theorem bracketed {result : Except JsonStop (α × List Char)} {c : Char} (h : ReadsOn (room - 1) rest result)
    (hrest : rest <:+ cs) (hc : isOpeningBracket c = true) : ReadsOn room (c :: cs) result := by
  cases result with
  | ok found => exact (h.trans hrest).trans (List.suffix_cons c cs)
  | error stop => exact JsonFault.IsIn.bracketed (JsonFault.IsIn.of_isSuffix h hrest) hc

end ReadsOn

theorem skipJsonBlanks_isSuffix (cs : List Char) : skipJsonBlanks cs <:+ cs :=
  List.dropWhile_suffix _

/-! Strings, words and numbers. -/

theorem hexUnit_isSuffix {cs rest : List Char} {n : Nat} (h : hexUnit? cs = some (n, rest)) : rest <:+ cs := by
  unfold hexUnit? at h
  split at h
  · rename_i a b c d tail
    simp only [bind, Option.bind_eq_some_iff, pure, Option.some.injEq, Prod.mk.injEq] at h
    obtain ⟨_, -, _, -, _, -, _, -, -, rfl⟩ := h
    exact ⟨[a, b, c, d], rfl⟩
  · cases h

theorem readUnicodeEscape_readsOn (room : Nat) (cs : List Char) : ReadsOn room cs (readUnicodeEscape cs) := by
  unfold readUnicodeEscape
  split
  · trivial
  · split
    · trivial
    · rename_i unit after hunit
      have hafter := hexUnit_isSuffix hunit
      split
      · split
        · rename_i more _
          have hmore : more <:+ cs := (List.suffix_append ['\\', 'u'] more).trans hafter
          split
          · trivial
          · rename_i low after' hlow
            split
            · exact (hexUnit_isSuffix hlow).trans hmore
            · exact hafter
        · exact hafter
      · exact hafter

theorem readJsonString_readsOn (room opened fuel : Nat) (done cs : List Char) :
    ReadsOn room cs (readJsonString opened fuel done cs) := by
  induction fuel generalizing done cs with
  | zero => trivial
  | succ fuel ih =>
    cases cs with
    | nil => trivial
    | cons c rest =>
      unfold readJsonString
      split
      · exact List.suffix_cons c rest
      · split
        · split
          · trivial
          · rename_i more
            refine ((readUnicodeEscape_readsOn room more).bind fun decoded after _ => ih _ after).of_isSuffix ?_
            exact List.suffix_append [c, 'u'] more
          · rename_i e more _
            split
            · exact (ih _ more).of_isSuffix (List.suffix_append [c, e] more)
            · trivial
        · split
          · trivial
          · exact (ih _ rest).of_isSuffix (List.suffix_cons c rest)

theorem readJsonWord_isSuffix {cs rest : List Char} {value : Json} (h : readJsonWord cs = some (value, rest)) :
    rest <:+ cs := by
  have hword : ∀ {j : Json} {word : String}, (afterWord? word cs).map (j, ·) = some (value, rest) → rest <:+ cs := by
    intro j word hw
    obtain ⟨after, hafter, ⟨⟩⟩ := Option.map_eq_some_iff.mp hw
    unfold afterWord? at hafter
    split at hafter
    · cases hafter
      exact List.drop_suffix _ _
    · cases hafter
  unfold readJsonWord at h
  simp only [Option.orElse_eq_orElse, Option.orElse_eq_or, Option.or_eq_some_iff] at h
  rcases h with h | ⟨-, h | ⟨-, h | ⟨-, h | ⟨-, h | ⟨-, h⟩⟩⟩⟩⟩ <;> exact hword h

theorem readExponent_isSuffix (cs : List Char) : (readExponent cs).2 <:+ cs := by
  unfold readExponent
  split
  · rename_i e rest
    split
    · split
      rename_i sign body hbody
      have hrest : body <:+ rest := by
        split at hbody
        · cases hbody
          exact List.suffix_cons _ _
        · cases hbody
          exact List.suffix_cons _ _
        · cases hbody
          exact List.suffix_rfl
      dsimp only
      split
      · exact List.suffix_rfl
      · exact ((List.dropWhile_suffix _).trans hrest).trans (List.suffix_cons e rest)
    · exact List.suffix_rfl
  · exact List.suffix_rfl

/-- The digits before the point: a zero alone, or all that come. -/
theorem wholeDigits_spec (cs : List Char) :
    (match cs with
      | '0' :: _ => ['0']
      | _ => cs.takeWhile isAsciiDigit) <+: cs ∧
      ∀ c ∈ (match cs with
        | '0' :: _ => ['0']
        | _ => cs.takeWhile isAsciiDigit), isAsciiDigit c = true := by
  split
  · rename_i rest
    refine ⟨⟨rest, rfl⟩, fun c hc => ?_⟩
    rw [List.mem_singleton.mp hc]
    rfl
  · exact ⟨List.takeWhile_prefix _, List.all_eq_true.mp (List.all_takeWhile ..)⟩

theorem readJsonNumber_readsOn (room : Nat) (negative : Bool) (cs : List Char) :
    ReadsOn room cs (readJsonNumber negative cs) := by
  unfold readJsonNumber
  extract_lets whole afterWhole
  obtain ⟨hwhole, hdigits⟩ : whole <+: cs ∧ ∀ c ∈ whole, isAsciiDigit c = true := wholeDigits_spec cs
  have hafter : afterWhole <:+ cs := List.drop_suffix _ _
  clear_value whole afterWhole
  split
  · trivial
  · split
    rename_i fraction afterFraction hfraction
    have hfractionRest : afterFraction <:+ afterWhole := by
      split at hfraction
      · dsimp only at hfraction
        split at hfraction
        · cases hfraction
          exact List.suffix_rfl
        · cases hfraction
          exact (List.dropWhile_suffix _).trans (List.suffix_cons _ _)
      · cases hfraction
        exact List.suffix_rfl
    have hexponent := readExponent_isSuffix afterFraction
    split
    rename_i e rest hrest
    rw [hrest] at hexponent
    have hleft : rest <:+ cs := (hexponent.trans hfractionRest).trans hafter
    split
    · split
      · rename_i hlong
        exact ⟨hlong, whole, hwhole.isInfix, rfl, hdigits⟩
      · exact hleft
    · exact hleft

/-! Values. -/

/-- A value is read with the room that is left where it stands, and so are the items and members of what encloses
it. -/
theorem readJsonValue_readsOn (fuel : Nat) :
    (∀ room cs, ReadsOn room cs (readJsonValue fuel room cs)) ∧
    (∀ room done cs, ReadsOn room cs (readJsonItems fuel room done cs)) ∧
    ∀ room done cs, ReadsOn room cs (readJsonMembers fuel room done cs) := by
  induction fuel with
  | zero => exact ⟨fun _ _ => trivial, fun _ _ _ => trivial, fun _ _ _ => trivial⟩
  | succ fuel ih =>
    obtain ⟨ihvalue, ihitems, ihmembers⟩ := ih
    have hkeeps : ∀ {room : Nat} (value : Json) (rest : List Char),
        ReadsOn room rest (.ok (value, rest)) := fun _ _ => List.suffix_rfl
    refine ⟨fun room cs => ?_, fun room done cs => ?_, fun room done cs => ?_⟩
    · unfold readJsonValue
      split
      · trivial
      · rename_i rest
        have hstring := readJsonString_readsOn room ('"' :: rest).length ('"' :: rest).length [] rest
        exact (hstring.bind fun s after _ => hkeeps (.string s) after).of_isSuffix (List.suffix_cons _ _)
      · rename_i rest
        have hrest := skipJsonBlanks_isSuffix rest
        split
        · rename_i hdeep
          exact lt_countP_isOpeningBracket hdeep rfl
        · split
          · rename_i after hafter
            rw [hafter] at hrest
            exact ((List.suffix_cons _ _).trans hrest).trans (List.suffix_cons _ _)
          · exact (ihitems (room - 1) [] _).bracketed hrest rfl
      · rename_i rest
        have hrest := skipJsonBlanks_isSuffix rest
        split
        · rename_i hdeep
          exact lt_countP_isOpeningBracket hdeep rfl
        · split
          · rename_i after hafter
            rw [hafter] at hrest
            exact ((List.suffix_cons _ _).trans hrest).trans (List.suffix_cons _ _)
          · exact (ihmembers (room - 1) [] _).bracketed hrest rfl
      · split
        · rename_i found hword
          exact readJsonWord_isSuffix hword
        · split
          · exact (readJsonNumber_readsOn room true _).of_isSuffix (List.suffix_cons _ _)
          · exact readJsonNumber_readsOn room false cs
    · unfold readJsonItems
      refine (ihvalue room cs).bind fun item after _ => ?_
      have hblanks := skipJsonBlanks_isSuffix after
      dsimp only
      split
      · rename_i rest heq
        rw [heq] at hblanks
        exact (List.suffix_cons _ _).trans hblanks
      · rename_i rest heq
        rw [heq] at hblanks
        exact (ihitems room _ _).of_isSuffix
          ((skipJsonBlanks_isSuffix rest).trans ((List.suffix_cons _ _).trans hblanks))
      · trivial
    · unfold readJsonMembers
      split
      · rename_i rest
        have hstring := readJsonString_readsOn room ('"' :: rest).length ('"' :: rest).length [] rest
        refine (hstring.bind fun name afterName _ => ?_).of_isSuffix (List.suffix_cons _ _)
        have hname := skipJsonBlanks_isSuffix afterName
        dsimp only
        split
        · rename_i more heq
          rw [heq] at hname
          have hmore := (skipJsonBlanks_isSuffix more).trans ((List.suffix_cons _ _).trans hname)
          refine ((ihvalue room (skipJsonBlanks more)).bind fun value after _ => ?_).of_isSuffix hmore
          have hblanks := skipJsonBlanks_isSuffix after
          dsimp only
          split
          · rename_i rest heq
            rw [heq] at hblanks
            exact (List.suffix_cons _ _).trans hblanks
          · rename_i rest heq
            rw [heq] at hblanks
            exact (ihmembers room _ _).of_isSuffix
              ((skipJsonBlanks_isSuffix rest).trans ((List.suffix_cons _ _).trans hblanks))
          · trivial
        · trivial
      · trivial

/-- A text that is beyond a limit of the reader has what is beyond it. -/
theorem Json.read_isIn {text : String} {e : JsonError} (h : Json.read text = .error e) :
    e.fault.IsIn maxJsonDepth text.toList := by
  unfold Json.read Json.readWithin at h
  extract_lets cs outcome at h
  have hblanks := skipJsonBlanks_isSuffix cs
  have hread : ReadsOn maxJsonDepth cs outcome := by
    simp only [outcome]
    split
    · trivial
    · refine (((readJsonValue_readsOn _).1 maxJsonDepth (skipJsonBlanks cs)).bind fun value after _ => ?_).of_isSuffix hblanks
      dsimp only
      split
      · exact List.nil_suffix
      · trivial
  cases ho : outcome with
  | ok found =>
    rw [ho] at h
    cases h
  | error stop =>
    rw [ho] at h hread
    cases h
    exact hread

end QueryGate
