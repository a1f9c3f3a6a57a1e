import QueryGate.Json.Reader
import QueryGate.Proofs.Session
import QueryGate.Service.Batch
/-! A value that was read from JSON text can be written as text again: the reader refuses the integers
that are too long to be shown. -/

namespace QueryGate

/-- The value has a literal. -/
def Json.IsShown (j : Json) : Prop :=
  ∃ text, j.toCell.literal = .ok text

theorem literalItems_cellsOfItems {items : List Json} (h : ∀ item ∈ items, item.IsShown) :
    ∃ texts, literalItems (cellsOfItems items) = .ok texts := by
  induction items with
  | nil => exact ⟨[], rfl⟩
  | cons item rest ih =>
    obtain ⟨text, ht⟩ := h item List.mem_cons_self
    obtain ⟨texts, hts⟩ := ih fun other ho => h other (List.mem_cons_of_mem _ ho)
    exact ⟨text :: texts, by
      simp only [cellsOfItems, literalItems, ht, hts, bind, Except.bind, pure, Except.pure]⟩

theorem literalEntries_cellsOfMembers {members : Members Json} (h : ∀ m ∈ members, m.2.IsShown) :
    ∃ texts, literalEntries (cellsOfMembers members) = .ok texts := by
  induction members with
  | nil => exact ⟨[], rfl⟩
  | cons member rest ih =>
    obtain ⟨name, value⟩ := member
    obtain ⟨text, ht⟩ := h (name, value) List.mem_cons_self
    obtain ⟨texts, hts⟩ := ih fun other ho => h other (List.mem_cons_of_mem _ ho)
    simp only at ht
    exact ⟨(literalText name ++ ": " ++ text) :: texts, by
      simp only [cellsOfMembers, literalEntries, Cell.literal, ht, hts, bind, Except.bind, pure,
        Except.pure]⟩

theorem Json.isShown_array {items : List Json} (h : ∀ item ∈ items, item.IsShown) :
    (Json.array items).IsShown := by
  obtain ⟨texts, ht⟩ := literalItems_cellsOfItems h
  refine ⟨"[" ++ ", ".intercalate texts ++ "]", ?_⟩
  simp only [Json.toCell, Cell.literal, ht, bind, Except.bind, pure, Except.pure]

theorem Json.isShown_object {members : Members Json} (h : ∀ m ∈ members, m.2.IsShown) :
    (Json.object members).IsShown := by
  obtain ⟨texts, ht⟩ := literalEntries_cellsOfMembers h
  refine ⟨"\x7b" ++ ", ".intercalate texts ++ "\x7d", ?_⟩
  simp only [Json.toCell, Cell.literal, ht, bind, Except.bind, pure, Except.pure]

/-- The text of an array has the texts of its items in it. -/
theorem Json.IsShown.items {items : List Json} (h : (Json.array items).IsShown) :
    ∀ item ∈ items, item.IsShown := by
  have hitems : ∃ texts, literalItems (cellsOfItems items) = .ok texts := by
    obtain ⟨text, ht⟩ := h
    cases he : literalItems (cellsOfItems items) with
    | ok texts => exact ⟨texts, rfl⟩
    | error f => simp [Json.toCell, Cell.literal, he, bind, Except.bind] at ht
  clear h
  induction items with
  | nil => simp
  | cons item rest ih =>
    obtain ⟨texts, ht⟩ := hitems
    cases hv : item.toCell.literal with
    | error f => simp [cellsOfItems, literalItems, hv, bind, Except.bind] at ht
    | ok text =>
      cases hr : literalItems (cellsOfItems rest) with
      | error f => simp [cellsOfItems, literalItems, hv, hr, bind, Except.bind] at ht
      | ok more => exact List.forall_mem_cons.mpr ⟨⟨text, hv⟩, ih ⟨more, hr⟩⟩

/-- The text of an object has the texts of its members in it. -/
theorem Json.IsShown.members {members : Members Json} (h : (Json.object members).IsShown) :
    ∀ m ∈ members, m.2.IsShown := by
  have hentries : ∃ texts, literalEntries (cellsOfMembers members) = .ok texts := by
    obtain ⟨text, ht⟩ := h
    cases he : literalEntries (cellsOfMembers members) with
    | ok texts => exact ⟨texts, rfl⟩
    | error f => simp [Json.toCell, Cell.literal, he, bind, Except.bind] at ht
  clear h
  induction members with
  | nil => simp
  | cons member rest ih =>
    obtain ⟨name, value⟩ := member
    obtain ⟨texts, ht⟩ := hentries
    cases hv : value.toCell.literal with
    | error f =>
      simp [cellsOfMembers, literalEntries, Cell.literal, hv, bind, Except.bind] at ht
    | ok text =>
      cases hr : literalEntries (cellsOfMembers rest) with
      | error f =>
        simp [cellsOfMembers, literalEntries, Cell.literal, hv, hr, bind, Except.bind] at ht
      | ok more =>
        intro m hm
        rcases List.mem_cons.mp hm with rfl | hm
        · exact ⟨text, hv⟩
        · exact ih ⟨more, hr⟩ m hm

theorem Members.mem_of_mem_put {α : Type} {members : Members α} {name : String} {value : α}
    {m : String × α} (h : m ∈ members.put name value) : m.2 = value ∨ m ∈ members := by
  induction members with
  | nil =>
    rw [put, List.mem_singleton] at h
    exact .inl (h ▸ rfl)
  | cons first rest ih =>
    unfold put at h
    split at h
    · rcases List.mem_cons.mp h with rfl | h
      · exact .inl rfl
      · exact .inr (List.mem_cons_of_mem _ h)
    · rcases List.mem_cons.mp h with rfl | h
      · exact .inr List.mem_cons_self
      · exact (ih h).imp id (List.mem_cons_of_mem _)

/-! What the reader gives. -/

theorem tenTo_succ (n : Nat) : tenTo (n + 1) = 10 * tenTo n :=
  Nat.pow_succ'

theorem tenTo_le {m n : Nat} (h : m ≤ n) : tenTo m ≤ tenTo n :=
  Nat.pow_le_pow_right (by omega) h

theorem natOfDigits_lt {digits : List Char} (h : ∀ c ∈ digits, isAsciiDigit c = true) (n : Nat) :
    digits.foldl (fun n c => 10 * n + digitValue c) n < (n + 1) * tenTo digits.length := by
  induction digits generalizing n with
  | nil => simp [tenTo]
  | cons c rest ih =>
    have hdigit : digitValue c ≤ 9 := by
      have hc := h c List.mem_cons_self
      simp only [isAsciiDigit, Bool.and_eq_true, decide_eq_true_eq, Char.le_def,
        UInt32.le_iff_toNat_le] at hc
      simp only [digitValue, Char.toNat] at hc ⊢
      have := hc.2
      simp at this ⊢
      omega
    have hrest := ih (fun d hd => h d (List.mem_cons_of_mem _ hd)) (10 * n + digitValue c)
    calc rest.foldl (fun n c => 10 * n + digitValue c) (10 * n + digitValue c)
        < (10 * n + digitValue c + 1) * tenTo rest.length := hrest
      _ ≤ (10 * (n + 1)) * tenTo rest.length := Nat.mul_le_mul_right _ (by omega)
      _ = (n + 1) * tenTo (c :: rest).length := by
        rw [List.length_cons, tenTo_succ, Nat.mul_comm 10 (n + 1), Nat.mul_assoc]

theorem Json.isShown_int {n : Int} (h : n.natAbs < tenTo maxShownDigits) : (Json.int n).IsShown :=
  ⟨intText n, by simp only [Json.toCell, Cell.literal, shownInt, if_neg (Nat.not_le.mpr h)]⟩

theorem readJsonNumber_isShown {negative : Bool} {cs rest : List Char} {value : Json}
    (h : readJsonNumber negative cs = .ok (value, rest)) : value.IsShown := by
  unfold readJsonNumber at h
  extract_lets whole afterWhole at h
  split at h
  · cases h
  have hdigits : ∀ c ∈ whole, isAsciiDigit c = true := by
    intro c hc
    simp only [whole] at hc
    split at hc
    · rw [List.mem_singleton.mp hc]
      rfl
    · exact List.all_eq_true.mp (List.all_takeWhile ..) c hc
  split at h
  split at h
  split at h
  · split at h
    · cases h
    · rename_i hlong
      simp only [Except.ok.injEq, Prod.mk.injEq] at h
      obtain ⟨rfl, -⟩ := h
      apply Json.isShown_int
      have hlt : natOfDigits whole < 1 * tenTo whole.length := natOfDigits_lt hdigits 0
      have hsize : tenTo whole.length ≤ tenTo maxShownDigits := tenTo_le (Nat.not_lt.mp hlong)
      split <;> omega
  · simp only [Except.ok.injEq, Prod.mk.injEq] at h
    obtain ⟨rfl, -⟩ := h
    exact ⟨_, rfl⟩

theorem readJsonWord_isShown {cs rest : List Char} {value : Json}
    (h : readJsonWord cs = some (value, rest)) : value.IsShown := by
  have hword : ∀ {j : Json} {word : String}, j.IsShown →
      (afterWord? word cs).map (j, ·) = some (value, rest) → value.IsShown := by
    intro j word hj hw
    obtain ⟨_, -, ⟨⟩⟩ := Option.map_eq_some_iff.mp hw
    exact hj
  unfold readJsonWord at h
  simp only [Option.orElse_eq_orElse, Option.orElse_eq_or, Option.or_eq_some_iff] at h
  rcases h with h | ⟨-, h | ⟨-, h | ⟨-, h | ⟨-, h | ⟨-, h⟩⟩⟩⟩⟩ <;>
    exact hword ⟨_, rfl⟩ h

/-- The reader keeps to values that have a literal: in a list of items and in the members done so far,
and so in the array or object made of them. -/
theorem readJsonValue_isShown (fuel : Nat) :
    (∀ {room cs value rest}, readJsonValue fuel room cs = .ok (value, rest) → value.IsShown) ∧
    (∀ {room done cs value rest}, (∀ item ∈ done, Json.IsShown item) →
      readJsonItems fuel room done cs = .ok (value, rest) → value.IsShown) ∧
    ∀ {room done cs value rest}, (∀ m ∈ done, Json.IsShown m.2) →
      readJsonMembers fuel room done cs = .ok (value, rest) → value.IsShown := by
  induction fuel with
  | zero =>
    refine ⟨?_, ?_, ?_⟩
    · intro room cs value rest h
      cases h
    · intro room done cs value rest _ h
      cases h
    · intro room done cs value rest _ h
      cases h
  | succ fuel ih =>
    obtain ⟨ihvalue, ihitems, ihmembers⟩ := ih
    refine ⟨?_, ?_, ?_⟩
    · intro room cs value rest h
      unfold readJsonValue at h
      split at h
      · cases h
      · obtain ⟨found, -, hs⟩ := bind_eq_ok h
        cases hs
        exact ⟨_, rfl⟩
      · split at h
        · cases h
        · split at h
          · cases h
            exact Json.isShown_array (by simp)
          · exact ihitems (by simp) h
      · split at h
        · cases h
        · split at h
          · cases h
            exact Json.isShown_object (by simp)
          · exact ihmembers (by simp) h
      · split at h
        · rename_i found hw
          cases h
          exact readJsonWord_isShown hw
        · split at h
          · exact readJsonNumber_isShown h
          · exact readJsonNumber_isShown h
    · intro room done cs value rest hdone h
      unfold readJsonItems at h
      obtain ⟨⟨item, after⟩, hitem, h⟩ := bind_eq_ok h
      have hall : ∀ other ∈ item :: done, Json.IsShown other :=
        List.forall_mem_cons.mpr ⟨ihvalue hitem, hdone⟩
      simp only at h
      split at h
      · cases h
        exact Json.isShown_array fun other ho => hall other (List.mem_reverse.mp ho)
      · exact ihitems hall h
      · cases h
    · intro room done cs value rest hdone h
      unfold readJsonMembers at h
      split at h
      · obtain ⟨⟨name, afterName⟩, -, h⟩ := bind_eq_ok h
        simp only at h
        split at h
        · obtain ⟨⟨member, after⟩, hmember, h⟩ := bind_eq_ok h
          have hall : ∀ m ∈ Members.put done name member, Json.IsShown m.2 := by
            intro m hm
            rcases Members.mem_of_mem_put hm with hm | hm
            · exact hm ▸ ihvalue hmember
            · exact hdone m hm
          simp only at h
          split at h
          · cases h
            exact Json.isShown_object hall
          · exact ihmembers hall h
          · cases h
        · cases h
      · cases h

theorem Json.read_isShown {text : String} {value : Json} (h : Json.read text = .ok value) :
    value.IsShown := by
  unfold Json.read Json.readWithin at h
  extract_lets cs outcome at h
  cases ho : outcome with
  | error stop => simp [ho] at h
  | ok found =>
    simp only [ho, Except.ok.injEq] at h
    simp only [outcome] at ho
    split at ho
    · cases ho
    · obtain ⟨⟨first, after⟩, hfirst, ho⟩ := bind_eq_ok ho
      simp only at ho
      split at ho
      · cases ho
        exact h ▸ (readJsonValue_isShown _).1 hfirst
      · cases ho

/-! The key of a query. -/

theorem Json.IsShown.plainText {j : Json} (h : j.IsShown) : ∃ text, j.toCell.plainText = .ok text := by
  cases j with
  | string s => exact ⟨s, rfl⟩
  | _ => exact h

theorem Json.IsShown.field {j value : Json} {name : String} (h : j.IsShown)
    (hfield : j.field? name = some value) : value.IsShown := by
  cases j with
  | object members =>
    obtain ⟨before, after, hsplit, -⟩ := List.lookup_eq_some_iff.mp hfield
    exact h.members (name, value) (by simp [hsplit])
  | _ => cases hfield

theorem queryKey_of_isShown (index : Nat) {raw : Json} (h : raw.IsShown) :
    ∃ key, queryKey index raw = .ok key := by
  unfold queryKey
  cases hfield : raw.field? "refId" with
  | none => exact ⟨_, rfl⟩
  | some ref =>
    by_cases hf : ref.isFilled = true
    · obtain ⟨key, hkey⟩ := (h.field hfield).plainText
      exact ⟨key, by simp only [hf, if_true, hkey]⟩
    · exact ⟨toString index, by simp only [hf, Bool.false_eq_true, if_false]⟩

theorem queryKey_of_read (index : Nat) {text : String} {raw : Json} (h : Json.read text = .ok raw) :
    ∃ key, queryKey index raw = .ok key :=
  queryKey_of_isShown index (Json.read_isShown h)

end QueryGate
