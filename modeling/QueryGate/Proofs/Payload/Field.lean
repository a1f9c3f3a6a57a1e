import QueryGate.Payload.Reading
import QueryGate.Proofs.Json.Members
/-! Fields of a payload. A field that may be left out holds what its first name that is there reads as, or its
default. -/

namespace QueryGate

namespace Checked

variable {α β : Type}

theorem map_eq_ok_iff {f : α → β} {a : Checked α} {y : β} : f <$> a = .ok y ↔ ∃ x, a = .ok x ∧ f x = y := by
  cases a with
  | ok x =>
    have hmap : f <$> ok x = ok (f x) := rfl
    simp [hmap]
  | wrong i is =>
    have hmap : f <$> wrong i is = wrong i is := rfl
    simp [hmap]

theorem seq_eq_ok_iff {f : Checked (α → β)} {a : Checked α} {y : β} :
    f <*> a = .ok y ↔ ∃ g x, f = .ok g ∧ a = .ok x ∧ g x = y := by
  change Checked.seq f (fun _ => a) = .ok y ↔ _
  cases f <;> cases a <;> simp [Checked.seq]

theorem andThen_eq_ok_iff {a : Checked α} {f : α → Checked β} {y : β} :
    a.andThen f = .ok y ↔ ∃ x, a = .ok x ∧ f x = .ok y := by
  cases a <;> simp [andThen]

/-- A reading with a bound. -/
theorem bounded_eq_ok {a : Checked α} {p : α → Prop} [DecidablePred p] {i : IssueKind} {x : α}
    (h : (a.andThen fun x => if p x then .ok x else .issue i) = .ok x) : a = .ok x ∧ p x := by
  obtain ⟨y, hread, hbound⟩ := andThen_eq_ok_iff.mp h
  split at hbound
  · next hp =>
    cases hbound
    exact ⟨hread, hp⟩
  · cases hbound

theorem under_eq_ok_iff {name : String} {a : Checked α} {x : α} : a.under name = .ok x ↔ a = .ok x := by
  cases a <;> simp [under]

end Checked

/-- The value of a field: what the first of its names that is there reads as, or its default. -/
def IsGiven {α : Type} (members : Members Json) (names : List String) (default : α) (read : Json → Checked α)
    (value : α) : Prop :=
  match firstMember members names with
  | some (_, given) => read given = .ok value
  | none => value = default

theorem fieldOr_eq_ok_iff {α : Type} {members : Members Json} {names : List String} {default value : α}
    {read : Json → Checked α} :
    fieldOr members names default read = .ok value ↔ IsGiven members names default read value := by
  unfold fieldOr IsGiven
  cases firstMember members names with
  | none => exact ⟨fun h => (Checked.ok.inj h).symm, fun h => congrArg _ h.symm⟩
  | some found => exact Checked.under_eq_ok_iff

/-- Whatever reads as a value in one way reads as its image in another, and the defaults agree. -/
theorem IsGiven.imp {α β : Type} {members : Members Json} {names : List String} {default value : α}
    {read : Json → Checked α} {read' : Json → Checked β} (f : α → β) (h : IsGiven members names default read value)
    (hread : ∀ given, read given = .ok value → read' given = .ok (f value)) :
    IsGiven members names (f default) read' (f value) := by
  unfold IsGiven at h ⊢
  cases hfirst : firstMember members names with
  | none =>
    rw [hfirst] at h
    exact congrArg f h
  | some found =>
    rw [hfirst] at h
    exact hread _ h

/-- What holds of the default and of all that is read holds of the value. -/
theorem IsGiven.holds {α : Type} {members : Members Json} {names : List String} {default value : α}
    {read : Json → Checked α} {P : α → Prop} (h : IsGiven members names default read value) (hdefault : P default)
    (hread : ∀ given, read given = .ok value → P value) : P value := by
  unfold IsGiven at h
  cases hfirst : firstMember members names with
  | none =>
    rw [hfirst] at h
    exact h ▸ hdefault
  | some found =>
    rw [hfirst] at h
    exact hread _ h

/-! A member that is not among the names of a field. -/

theorem firstMember_put (m : Members Json) {name : String} {names : List String} (h : name ∉ names)
    (value : Json) : firstMember (m.put name value) names = firstMember m names := by
  induction names with
  | nil => rfl
  | cons first names ih =>
    rw [List.mem_cons, not_or] at h
    obtain ⟨hfirst, hrest⟩ := h
    rw [firstMember, firstMember, Members.find?_put, if_neg (Ne.symm hfirst), ih hrest]

theorem fieldOr_put {α : Type} (m : Members Json) {name : String} {names : List String} (h : name ∉ names)
    (value : Json) (default : α) (read : Json → Checked α) :
    fieldOr (m.put name value) names default read = fieldOr m names default read := by
  rw [fieldOr, fieldOr, firstMember_put m h]

end QueryGate
