import QueryGate.Proofs.Query.Reread
import QueryGate.Proofs.Session
import QueryGate.Proofs.Statement.Adapted
import QueryGate.Query.Visual
/-! What a filter becomes: a predicate on its column, the values of which are taken out of its own. -/

namespace QueryGate

/-! Values are taken out of the text of a filter. -/

theorem trimOf_isInfix (p : Char → Bool) (cs : List Char) : trimOf p cs <:+: cs :=
  (trimEndOf_isPrefix p _).isInfix.trans (List.dropWhile_suffix p).isInfix

theorem filterValue_isInfix (cs : List Char) : (filterValue cs).toList <:+: cs := by
  rw [filterValue, String.toList_ofList]
  exact (trimOf_isInfix _ _).trans ((trimOf_isInfix _ _).trans (trimOf_isInfix _ _))

theorem splitAtCommas_isInfix (cs : List Char) : ∃ first rest, splitAtCommas cs = first :: rest ∧
    first <+: cs ∧ ∀ item ∈ rest, item <:+: cs := by
  induction cs with
  | nil => exact ⟨[], [], rfl, List.prefix_refl _, by simp⟩
  | cons c cs ih =>
    obtain ⟨first, rest, hsplit, hfirst, hrest⟩ := ih
    have hpart : ∀ item, item <:+: cs → item <:+: c :: cs := fun item h =>
      h.trans (List.suffix_cons c cs).isInfix
    by_cases hc : c = ','
    · refine ⟨[], first :: rest, by simp [splitAtCommas, hc, hsplit], List.nil_prefix, ?_⟩
      exact List.forall_mem_cons.mpr ⟨hpart _ hfirst.isInfix, fun item h => hpart _ (hrest item h)⟩
    · refine ⟨c :: first, rest, by simp [splitAtCommas, hc, hsplit], ?_, fun item h => hpart _ (hrest item h)⟩
      exact (List.prefix_cons_inj c).mpr hfirst

theorem mem_listValues {value item : String} (h : item ∈ listValues value) :
    ∃ part, part <:+: value.toList ∧ item = filterValue part := by
  obtain ⟨cs, hcs, rfl⟩ := List.mem_map.mp h
  obtain ⟨first, rest, hsplit, hfirst, hrest⟩ := splitAtCommas_isInfix value.toList
  have hmem := (List.mem_filter.mp hcs).1
  rw [hsplit] at hmem
  rcases List.mem_cons.mp hmem with rfl | hmem
  · exact ⟨cs, hfirst.isInfix, rfl⟩
  · exact ⟨cs, hrest cs hmem, rfl⟩

theorem rangeValues_parts {value low high : String} (h : rangeValues value = some (low, high)) :
    (∃ part, part <:+: value.toList ∧ low = filterValue part) ∧
      ∃ part, part <:+: value.toList ∧ high = filterValue part := by
  unfold rangeValues at h
  dsimp only at h
  split at h
  · exact absurd h (by simp)
  · obtain ⟨rfl, rfl⟩ := Prod.mk.inj (Option.some.inj h)
    exact ⟨⟨_, (List.take_prefix _ _).isInfix, rfl⟩, ⟨_, (List.drop_suffix _ _).isInfix, rfl⟩⟩

/-! Predicates. -/

/-- A predicate on a column whose values are parts of a text. -/
structure Predicate.IsFrom (column value : String) (p : Predicate) : Prop where
  column_eq : p.column = .ofName column
  complete : p.isComplete = true
  values : ∀ v ∈ p.values, ∃ part, part <:+: value.toList ∧ v = filterValue part

theorem plainPredicate_isFrom {column op written value : String} {p : Predicate}
    (h : plainPredicate column op written value = .ok p) : p.IsFrom column value := by
  have hwhole : ∀ v ∈ [filterValue value.toList], ∃ part, part <:+: value.toList ∧ v = filterValue part :=
    List.forall_mem_singleton.mpr ⟨_, List.infix_refl _, rfl⟩
  have hlist : ¬ (listValues value).isEmpty = true →
      (Predicate.oneOf (.ofName column) (listValues value)).IsFrom column value := fun hne =>
    ⟨rfl, by simpa [Predicate.isComplete] using hne, fun _ => mem_listValues⟩
  unfold plainPredicate at h
  dsimp only at h
  split at h
  · cases h
    exact ⟨rfl, rfl, hwhole⟩
  · cases h
    exact ⟨rfl, rfl, hwhole⟩
  · split at h
    · cases h
      exact ⟨rfl, rfl, List.forall_mem_nil _⟩
    · split at h
      · cases h
        exact ⟨rfl, rfl, List.forall_mem_nil _⟩
      · split at h
        · split at h
          · exact absurd h (by simp [invalidPayload])
          · split at h
            · cases h
              exact hlist ‹_›
            · cases h
              obtain ⟨hcolumn, hcomplete, hvalues⟩ := hlist ‹_›
              exact ⟨hcolumn, hcomplete, hvalues⟩
        · split at h
          · split at h
            · cases h
              obtain ⟨hlow, hhigh⟩ := rangeValues_parts ‹_›
              exact ⟨rfl, rfl, List.forall_mem_cons.mpr ⟨hlow, List.forall_mem_singleton.mpr hhigh⟩⟩
            · exact absurd h (by simp [invalidPayload])
          · exact absurd h (by simp [invalidPayload])

theorem FilterCondition.predicate_isFrom {column operator : String} {f : FilterCondition} {p : Predicate}
    (h : f.predicate column operator = .ok p) : p.IsFrom column (f.value.getD "") := by
  unfold FilterCondition.predicate at h
  dsimp only at h
  split at h
  · obtain ⟨inner, hinner, rfl⟩ := map_eq_ok h
    obtain ⟨hcolumn, hcomplete, hvalues⟩ := plainPredicate_isFrom hinner
    exact ⟨hcolumn, hcomplete, hvalues⟩
  · exact plainPredicate_isFrom h

/-! Conditions. -/

/-- The predicates of a condition, if there is one. -/
def predicatesOf : Option Condition → List Predicate
  | none => []
  | some c => c.predicates

theorem FilterCondition.predicates_join (f : FilterCondition) (before : Option Condition) (p : Predicate) :
    (f.join before p).predicates = predicatesOf before ++ [p] := by
  cases before with
  | none => rfl
  | some c =>
    unfold FilterCondition.join
    dsimp only
    split <;> rfl

theorem predicatesOf_conditionOf {P : Predicate → Prop} {filters : List FilterCondition}
    {before after : Option Condition}
    (hfilters : ∀ f ∈ filters, ∀ column ∈ filled? f.column, ∀ p : Predicate, p.IsFrom column (f.value.getD "") → P p)
    (hbefore : ∀ p ∈ predicatesOf before, P p) (h : conditionOf before filters = .ok after) :
    ∀ p ∈ predicatesOf after, P p := by
  induction filters generalizing before with
  | nil =>
    obtain rfl := Except.ok.inj h
    exact hbefore
  | cons f rest ih =>
    obtain ⟨hf, hrest⟩ := List.forall_mem_cons.mp hfilters
    unfold conditionOf at h
    split at h
    · rename_i column operator hcolumn hoperator
      obtain ⟨p, hp, hjoined⟩ := bind_eq_ok h
      refine ih hrest (fun q hq => ?_) hjoined
      rw [predicatesOf, f.predicates_join] at hq
      rcases List.mem_append.mp hq with hq | hq
      · exact hbefore q hq
      · exact List.mem_singleton.mp hq ▸ hf column hcolumn p (f.predicate_isFrom hp)
    · exact ih hrest hbefore h

end QueryGate
