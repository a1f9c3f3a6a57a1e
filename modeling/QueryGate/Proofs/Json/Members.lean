import Mathlib.Data.List.Forall2
import Mathlib.Data.List.Nodup
import QueryGate.Json.Value
/-! Members under their names: what adding one, or giving one a new value, does to them. -/

namespace QueryGate

namespace Members

variable {α : Type}

theorem names_put (members : Members α) (name : String) (value : α) :
    (members.put name value).map (·.1) =
      if name ∈ members.map (·.1) then members.map (·.1) else members.map (·.1) ++ [name] := by
  induction members with
  | nil => rfl
  | cons first rest ih =>
    obtain ⟨n, v⟩ := first
    by_cases hn : n = name
    · simp [put, hn]
    · have hn' : name ≠ n := fun h => hn h.symm
      simp only [put, hn, if_false, List.map_cons, ih, List.mem_cons, hn', false_or]
      split <;> simp

theorem put_of_not_mem {members : Members α} {name : String} (h : name ∉ members.map (·.1)) (value : α) :
    members.put name value = members ++ [(name, value)] := by
  induction members with
  | nil => rfl
  | cons first rest ih =>
    obtain ⟨n, v⟩ := first
    rw [List.map_cons, List.mem_cons, not_or] at h
    have hn : n ≠ name := fun heq => h.1 heq.symm
    rw [put, if_neg hn, ih h.2, List.cons_append]

/-- Adds members one after the other. -/
def putAll (members : Members α) (more : Members α) : Members α :=
  more.foldl (fun members m => members.put m.1 m.2) members

theorem putAll_of_nodup {members more : Members α} (h : ((members ++ more).map (·.1)).Nodup) :
    members.putAll more = members ++ more := by
  induction more generalizing members with
  | nil => exact (List.append_nil members).symm
  | cons m more ih =>
    have hnew : m.1 ∉ members.map (·.1) := by
      rw [List.map_append, List.nodup_append] at h
      exact fun hold => h.2.2 _ hold _ List.mem_cons_self rfl
    have hmore : ((members.put m.1 m.2 ++ more).map (·.1)).Nodup := by
      rw [put_of_not_mem hnew]
      simpa using h
    calc members.putAll (m :: more) = (members.put m.1 m.2).putAll more := rfl
      _ = members.put m.1 m.2 ++ more := ih hmore
      _ = members ++ m :: more := by rw [put_of_not_mem hnew, List.append_assoc, List.singleton_append]

theorem ofList_of_nodup {members : Members α} (h : (members.map (·.1)).Nodup) : ofList members = members :=
  putAll_of_nodup h

theorem find?_cons (first : String × α) (rest : Members α) (name : String) :
    find? (first :: rest) name = if name = first.1 then some first.2 else find? rest name := by
  obtain ⟨n, v⟩ := first
  by_cases h : name = n
  · simp [find?, h]
  · simp [find?, List.lookup_cons, h, beq_eq_false_iff_ne.mpr h]

theorem find?_put (members : Members α) (name other : String) (value : α) :
    (members.put name value).find? other =
      if other = name then some value else members.find? other := by
  induction members with
  | nil => exact find?_cons (name, value) [] other
  | cons first rest ih =>
    obtain ⟨n, v⟩ := first
    by_cases hn : n = name
    · subst hn
      by_cases ho : other = n <;> simp [put, find?_cons, ho]
    · by_cases ho : other = n
      · simp [put, hn, find?_cons, ho]
      · simp [put, hn, find?_cons, ho, ih]

theorem find?_putAll_of_not_mem {members more : Members α} {name : String} (h : name ∉ more.map (·.1)) :
    (members.putAll more).find? name = members.find? name := by
  induction more generalizing members with
  | nil => rfl
  | cons m more ih =>
    rw [List.map_cons, List.mem_cons, not_or] at h
    calc (members.putAll (m :: more)).find? name = (members.put m.1 m.2).find? name := ih h.2
      _ = members.find? name := by rw [find?_put, if_neg h.1]

theorem nodup_names_put {members : Members α} (h : (members.map (·.1)).Nodup) (name : String) (value : α) :
    ((members.put name value).map (·.1)).Nodup := by
  rw [names_put]
  split
  · exact h
  · next hnew => exact List.nodup_append_comm.mpr (List.nodup_cons.mpr ⟨hnew, h⟩)

theorem nodup_names_putAll {members : Members α} (h : (members.map (·.1)).Nodup) (more : Members α) :
    ((members.putAll more).map (·.1)).Nodup := by
  induction more generalizing members with
  | nil => exact h
  | cons m more ih => exact ih (nodup_names_put h m.1 m.2)

theorem forall_mem_put {p : α → Prop} {members : Members α} {name : String} {value : α} (h : ∀ m ∈ members, p m.2)
    (hvalue : p value) : ∀ m ∈ members.put name value, p m.2 := by
  induction members with
  | nil => exact List.forall_mem_singleton.mpr hvalue
  | cons first rest ih =>
    obtain ⟨n, v⟩ := first
    obtain ⟨hfirst, hrest⟩ := List.forall_mem_cons.mp h
    rw [put]
    split
    · exact List.forall_mem_cons.mpr ⟨hvalue, hrest⟩
    · exact List.forall_mem_cons.mpr ⟨hfirst, ih hrest⟩

theorem forall_mem_putAll {p : α → Prop} {members more : Members α} (h : ∀ m ∈ members, p m.2)
    (hmore : ∀ m ∈ more, p m.2) : ∀ m ∈ members.putAll more, p m.2 := by
  induction more generalizing members with
  | nil => exact h
  | cons m more ih =>
    obtain ⟨hm, hmore⟩ := List.forall_mem_cons.mp hmore
    exact ih (forall_mem_put h hm) hmore

section Related

variable {β : Type} {p : α → β → Prop} {members : Members α} {others : Members β}
  (h : List.Forall₂ (fun m o => m.1 = o.1 ∧ p m.2 o.2) members others)

include h

theorem names_eq_of_forall₂ : members.map (·.1) = others.map (·.1) := by
  induction h with
  | nil => rfl
  | cons hm _ ih => rw [List.map_cons, List.map_cons, hm.1, ih]

theorem find?_of_forall₂ (name : String) : Option.Rel p (members.find? name) (others.find? name) := by
  induction h with
  | nil => exact .none
  | cons hm _ ih =>
    rw [find?_cons, find?_cons, ← hm.1]
    split
    · exact .some hm.2
    · exact ih

end Related

end Members

end QueryGate
