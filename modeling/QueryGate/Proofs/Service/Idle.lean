import QueryGate.Proofs.Session
import QueryGate.Service.Batch
/-! Requests that ask for nothing. The test by which a batch leaves them out finds just the requests
whose statement cannot be had because there is none: a definition fails in other words. -/

namespace QueryGate

/-- The failure of a request that asks for nothing. -/
def nothingAsked : Failure :=
  ⟨.invalidPayload, "queryText is required", none⟩

/-- The failures of definitions start with another letter. -/
def Failure.IsOfDefinition (f : Failure) : Prop :=
  f.message.toList.head? ≠ some 'q'

theorem isOfDefinition_append {kind : FailureKind} {start rest : String} {cause : Option FaultKind}
    {c : Char} (hc : start.toList.head? = some c) (hq : c ≠ 'q') :
    Failure.IsOfDefinition ⟨kind, start ++ rest, cause⟩ := by
  simp [Failure.IsOfDefinition, hc, hq]

theorem projection_isOfDefinition {column : String} {field : FieldSelection} {f : Failure}
    (h : field.projection column = .error f) : f.IsOfDefinition := by
  unfold FieldSelection.projection at h
  split at h
  · split at h
    · cases h
    · cases h
      exact isOfDefinition_append (c := 'U') (by decide) (by decide)
  · split at h <;> cases h

theorem projections_isOfDefinition {fields : List FieldSelection} {f : Failure}
    (h : projections fields = .error f) : f.IsOfDefinition := by
  induction fields with
  | nil => cases h
  | cons field rest ih =>
    unfold projections at h
    split at h
    · exact ih h
    · rcases bind_eq_error h with h | ⟨p, -, h⟩
      · exact projection_isOfDefinition h
      · rcases bind_eq_error h with h | ⟨ps, -, h⟩
        · exact ih h
        · cases h

theorem plainPredicate_isOfDefinition {column op written value : String} {f : Failure}
    (h : plainPredicate column op written value = .error f) : f.IsOfDefinition := by
  unfold plainPredicate at h
  dsimp only at h
  split at h
  · cases h
  · cases h
  · split at h
    · cases h
    · split at h
      · cases h
      · split at h
        · rename_i hop
          split at h
          · cases h
            rw [String.append_assoc, String.append_assoc]
            rcases hop with rfl | rfl
            · exact isOfDefinition_append (c := 'I') (by decide) (by decide)
            · exact isOfDefinition_append (c := 'N') (by decide) (by decide)
          · split at h <;> cases h
        · split at h
          · split at h
            · cases h
            · cases h
              rw [String.append_assoc]
              exact isOfDefinition_append (c := 'B') (by decide) (by decide)
          · cases h
            exact isOfDefinition_append (c := 'U') (by decide) (by decide)

theorem predicate_isOfDefinition {column operator : String} {filter : FilterCondition} {f : Failure}
    (h : filter.predicate column operator = .error f) : f.IsOfDefinition := by
  unfold FilterCondition.predicate at h
  dsimp only at h
  split at h
  · generalize hp : plainPredicate _ _ _ _ = result at h
    cases result with
    | ok p => cases h
    | error f' =>
      cases h
      exact plainPredicate_isOfDefinition hp
  · exact plainPredicate_isOfDefinition h

theorem conditionOf_isOfDefinition {filters : List FilterCondition} {before : Option Condition}
    {f : Failure} (h : conditionOf before filters = .error f) : f.IsOfDefinition := by
  induction filters generalizing before with
  | nil => cases h
  | cons filter rest ih =>
    unfold conditionOf at h
    split at h
    · rcases bind_eq_error h with h | ⟨p, -, h⟩
      · exact predicate_isOfDefinition h
      · exact ih h
    · exact ih h

theorem select_isOfDefinition {q : VisualQuery} {f : Failure} (h : q.select = .error f) :
    f.IsOfDefinition := by
  unfold VisualQuery.select at h
  split at h
  · rcases bind_eq_error h with h | ⟨items, -, h⟩
    · exact projections_isOfDefinition h
    · split at h
      · cases h
        simp [Failure.IsOfDefinition]
      · dsimp only at h
        split at h
        · rcases bind_eq_error h with h | ⟨condition, -, h⟩
          · exact conditionOf_isOfDefinition h
          · cases h
        · cases h
  · cases h
    simp [Failure.IsOfDefinition]

theorem text_isOfDefinition {q : VisualQuery} {f : Failure} (h : q.text = .error f) :
    f.IsOfDefinition := by
  unfold VisualQuery.text at h
  cases hs : q.select with
  | ok select => simp [hs, Except.map] at h
  | error f' =>
    simp only [hs, Except.map, Except.error.injEq] at h
    exact h ▸ select_isOfDefinition hs

/-- The two tests for a request that asks for nothing agree. -/
theorem Request.resolve_eq_nothingAsked_iff (r : Request) :
    r.resolve = .error nothingAsked ↔ (r.hasStatement || r.visual.isSome) = false := by
  unfold resolve
  cases hs : r.hasStatement with
  | true => simp
  | false =>
    cases hv : r.visual with
    | none => simp [invalidPayload, nothingAsked]
    | some v =>
      refine ⟨fun h => ?_, fun h => by simp at h⟩
      have hquery : nothingAsked.IsOfDefinition := text_isOfDefinition (by simpa using h)
      simp [Failure.IsOfDefinition, nothingAsked] at hquery

end QueryGate
