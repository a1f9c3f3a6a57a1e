import QueryGate.Proofs.Json.Rendered
import QueryGate.Proofs.Value.PlainDecimal
import QueryGate.Value.Display
/-! The text that is shown for a value read back. Integers and decimals read back as the same number, and lists,
tuples and maps of plain values as the same structure, however deep they stand inside one another. -/

namespace QueryGate

/-- The structure that a cell of plain values is, in which lists, tuples and maps stand in so much room. -/
inductive Cell.Means : Nat → Cell → Json → Prop
  | null (room : Nat) : Means room .null .null
  | bool (room : Nat) (b : Bool) : Means room (.bool b) (.bool b)
  | int (room : Nat) {n : Int} (h : n.natAbs < tenTo maxShownDigits) : Means room (.int n) (.int n)
  | text (room : Nat) (s : String) : Means room (.text s) (.string s)
  | list {room : Nat} {items : List Cell} {parts : List Json} (hlength : items.length = parts.length)
    (h : ∀ p ∈ items.zip parts, Means room p.1 p.2) : Means (room + 1) (.list items) (.array parts)
  | tuple {room : Nat} {items : List Cell} {parts : List Json} (hlength : items.length = parts.length)
    (h : ∀ p ∈ items.zip parts, Means room p.1 p.2) : Means (room + 1) (.tuple items) (.array parts)
  | map {room : Nat} {entries : List (Cell × Cell)} {members : Members Json}
    (hkeys : entries.map Prod.fst = members.map fun m => .text m.1) (hnames : (members.map Prod.fst).Nodup)
    (h : ∀ p ∈ entries.zip members, Means room p.1.2 p.2.2) : Means (room + 1) (.map entries) (.object members)

theorem shownInt_eq_ok {n : Int} (h : n.natAbs < tenTo maxShownDigits) : shownInt n = .ok (intText n) :=
  if_neg (Nat.not_le.mpr h)

theorem itemsToJson_eq_ok {items : List Cell} {parts : List Json} (hlength : items.length = parts.length)
    (h : ∀ p ∈ items.zip parts, p.1.toJson = .ok p.2) : itemsToJson items = .ok parts := by
  induction items generalizing parts with
  | nil =>
    obtain rfl := List.length_eq_zero_iff.mp hlength.symm
    rfl
  | cons item items ih =>
    obtain ⟨part, parts, rfl⟩ := List.exists_cons_of_length_eq_add_one hlength.symm
    rw [List.zip_cons_cons, List.forall_mem_cons] at h
    rw [itemsToJson, h.1, ih (Nat.succ.inj hlength) h.2]
    rfl

theorem entriesToJson_eq_ok {entries : List (Cell × Cell)} {members : Members Json}
    (hkeys : entries.map Prod.fst = members.map fun m => .text m.1)
    (h : ∀ p ∈ entries.zip members, p.1.2.toJson = .ok p.2.2) : entriesToJson entries = .ok members := by
  induction entries generalizing members with
  | nil =>
    obtain rfl := List.map_eq_nil_iff.mp hkeys.symm
    rfl
  | cons entry entries ih =>
    obtain ⟨⟨name, value⟩, members, rfl, hname, hrest⟩ := List.map_eq_cons_iff.mp hkeys.symm
    obtain ⟨key, cell⟩ := entry
    rw [List.zip_cons_cons, List.forall_mem_cons] at h
    obtain rfl : Cell.text name = key := hname
    rw [entriesToJson, Cell.memberName, ih hrest.symm h.2]
    simp only [bind, Except.bind, h.1]
    rfl

theorem forall_mem_of_zip {α β : Type} {xs : List α} {ys : List β} {p : β → Prop} (hlength : xs.length = ys.length)
    (h : ∀ q ∈ xs.zip ys, p q.2) : ∀ y ∈ ys, p y := by
  intro y hy
  rw [← List.map_snd_zip hlength.ge, List.mem_map] at hy
  obtain ⟨q, hq, rfl⟩ := hy
  exact h q hq

namespace Cell.Means

variable {room : Nat} {cell : Cell} {j : Json}

theorem toJson (h : cell.Means room j) : cell.toJson = .ok j := by
  induction h with
  | null => rfl
  | bool => rfl
  | int _ h =>
    rw [Cell.toJson, shownInt_eq_ok h]
    rfl
  | text => rfl
  | list hlength _ ih =>
    rw [Cell.toJson, itemsToJson_eq_ok hlength ih]
    rfl
  | tuple hlength _ ih =>
    rw [Cell.toJson, itemsToJson_eq_ok hlength ih]
    rfl
  | map hkeys _ _ ih =>
    rw [Cell.toJson, entriesToJson_eq_ok hkeys ih]
    rfl

theorem fits (h : cell.Means room j) : j.ReadsAs room j := by
  induction h with
  | null room => exact .null room
  | bool room b => exact .bool room b
  | int room h => exact .int room h
  | text room s => exact .string room s
  | @list room items parts hlength _ ih =>
    exact .array_self (forall_mem_of_zip (p := fun part => part.ReadsAs room part) hlength ih)
  | @tuple room items parts hlength _ ih =>
    exact .array_self (forall_mem_of_zip (p := fun part => part.ReadsAs room part) hlength ih)
  | @map room entries members hkeys hnames _ ih =>
    have hlength : entries.length = members.length := by
      simpa using congrArg List.length hkeys
    exact .object_self hnames (forall_mem_of_zip (p := fun m => m.2.ReadsAs room m.2) hlength ih)

end Cell.Means

/-- Lists, tuples and maps. -/
def Cell.isNested : Cell → Bool
  | .list _ | .tuple _ | .map _ => true
  | _ => false

theorem Cell.display_of_isNested {cell : Cell} (h : cell.isNested = true) (nullText : String) :
    cell.display nullText = cell.toJson.map Json.spaced := by
  cases cell with
  | list items => rfl
  | tuple items => rfl
  | map entries => rfl
  | _ => cases h

end QueryGate
