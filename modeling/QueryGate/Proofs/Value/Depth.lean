import QueryGate.Proofs.Json.Rendered
import QueryGate.Value.Display
/-! Values that are written inside JSON. Whatever a value holds, its text is read again, by a reader that reads as deep as
lists, tuples and maps stand inside one another in it. -/

namespace QueryGate

mutual
/-- How deep lists, tuples and maps stand inside one another. -/
def Cell.depth : Cell → Nat
  | .list items | .tuple items => itemsDepth items + 1
  | .map entries => entriesDepth entries + 1
  | _ => 0

def itemsDepth : List Cell → Nat
  | [] => 0
  | item :: rest => max item.depth (itemsDepth rest)

/-- The keys of a map are names and do not count. -/
def entriesDepth : List (Cell × Cell) → Nat
  | [] => 0
  | (_, value) :: rest => max value.depth (entriesDepth rest)
end

theorem readsAs_plain {text : Except Fault String} {j : Json} (h : (do return Json.string (← text)) = .ok j) :
    ∃ read, j.ReadsAs 0 read := by
  obtain ⟨s, -, hs⟩ := bind_eq_ok h
  obtain rfl := Except.ok.inj hs
  exact ⟨_, .string 0 s⟩

theorem shownInt_lt {n : Int} {text : String} (h : shownInt n = .ok text) : n.natAbs < tenTo maxShownDigits := by
  by_contra hlong
  rw [shownInt, if_pos (Nat.not_lt.mp hlong)] at h
  cases h

theorem toJson_int_eq_ok {n : Int} {j : Json} (h : (Cell.int n).toJson = .ok j) :
    n.natAbs < tenTo maxShownDigits ∧ j = .int n := by
  rw [Cell.toJson] at h
  cases hshown : shownInt n with
  | error f =>
    rw [hshown] at h
    cases h
  | ok text =>
    rw [hshown] at h
    exact ⟨shownInt_lt hshown, (Except.ok.inj h).symm⟩

theorem readsAs_int {n : Int} {j : Json} (h : (Cell.int n).toJson = .ok j) : ∃ read, j.ReadsAs 0 read := by
  obtain ⟨hn, rfl⟩ := toJson_int_eq_ok h
  exact ⟨_, .int 0 hn⟩

mutual
theorem Cell.exists_readsAs (cell : Cell) {j : Json} (h : cell.toJson = .ok j) : ∃ read, j.ReadsAs cell.depth read := by
  cases cell with
  | null => exact Except.ok.inj h ▸ ⟨_, .null 0⟩
  | bool b => exact Except.ok.inj h ▸ ⟨_, .bool 0 b⟩
  | float x => exact Except.ok.inj h ▸ ⟨_, .float 0 x⟩
  | text s => exact Except.ok.inj h ▸ ⟨_, .string 0 s⟩
  | int n => exact readsAs_int h
  | list items | tuple items =>
    rw [Cell.toJson] at h
    obtain ⟨found, hitems, hj⟩ := bind_eq_ok h
    obtain ⟨reads, hreads⟩ := exists_readsAs_items items hitems
    obtain rfl := Except.ok.inj hj
    exact ⟨_, .array_of_forall₂ hreads⟩
  | map entries =>
    rw [Cell.toJson] at h
    obtain ⟨found, hentries, hj⟩ := bind_eq_ok h
    obtain ⟨reads, hreads⟩ := exists_readsAs_entries entries hentries
    obtain rfl := Except.ok.inj hj
    exact ⟨_, .object_of_forall₂ hreads⟩
  | _ => exact readsAs_plain h

theorem exists_readsAs_items : (items : List Cell) → ∀ {found : List Json}, itemsToJson items = .ok found →
    ∃ reads, List.Forall₂ (Json.ReadsAs (itemsDepth items)) found reads
  | [], _, h => Except.ok.inj h ▸ ⟨[], .nil⟩
  | item :: rest, found, h => by
    rw [itemsToJson] at h
    obtain ⟨first, hfirst, hmore⟩ := bind_eq_ok h
    obtain ⟨others, hrest, hfound⟩ := bind_eq_ok hmore
    obtain ⟨read, hread⟩ := item.exists_readsAs hfirst
    obtain ⟨reads, hreads⟩ := exists_readsAs_items rest hrest
    obtain rfl := Except.ok.inj hfound
    exact ⟨read :: reads, .cons (hread.mono (Nat.le_max_left ..))
      (hreads.imp fun _ _ h => h.mono (Nat.le_max_right ..))⟩

theorem exists_readsAs_entries : (entries : List (Cell × Cell)) → ∀ {found : Members Json}, entriesToJson entries = .ok found →
    ∃ reads : Members Json, List.Forall₂ (fun m p => m.1 = p.1 ∧ m.2.ReadsAs (entriesDepth entries) p.2) found reads
  | [], _, h => Except.ok.inj h ▸ ⟨[], .nil⟩
  | (key, value) :: rest, found, h => by
    rw [entriesToJson] at h
    obtain ⟨name, -, hmore⟩ := bind_eq_ok h
    obtain ⟨first, hfirst, hmore⟩ := bind_eq_ok hmore
    obtain ⟨others, hrest, hfound⟩ := bind_eq_ok hmore
    obtain ⟨read, hread⟩ := value.exists_readsAs hfirst
    obtain ⟨reads, hreads⟩ := exists_readsAs_entries rest hrest
    obtain rfl := Except.ok.inj hfound
    exact ⟨(name, read) :: reads, .cons ⟨rfl, hread.mono (Nat.le_max_left ..)⟩
      (hreads.imp fun _ _ h => ⟨h.1, h.2.mono (Nat.le_max_right ..)⟩)⟩
end

end QueryGate
