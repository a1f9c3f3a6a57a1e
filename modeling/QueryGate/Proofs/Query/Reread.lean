import QueryGate.Proofs.Sql.Lexing
/-! Queries with their values as they are read. A value that is written as a literal is read as another one where
a zero character and two octal digits stand in it; all else in a query stays as it is. -/

namespace QueryGate

namespace Predicate

def column : Predicate → ColumnRef
  | .compare column _ _ => column
  | .fits column _ _ => column
  | .isNull column => column
  | .oneOf column _ => column
  | .between column _ _ => column
  | .negated p => p.column

/-- The values that a column is compared with. -/
def values : Predicate → List String
  | .compare _ _ value => [value]
  | .fits _ _ value => [value]
  | .isNull _ => []
  | .oneOf _ values => values
  | .between _ low high => [low, high]
  | .negated p => p.values

/-- Whether a list of values has any. -/
def isComplete : Predicate → Bool
  | .oneOf _ values => !values.isEmpty
  | .negated p => p.isComplete
  | _ => true

def reread : Predicate → Predicate
  | .compare column how value => .compare column how (rereadValue value)
  | .fits column how value => .fits column how (rereadValue value)
  | .isNull column => .isNull column
  | .oneOf column values => .oneOf column (values.map rereadValue)
  | .between column low high => .between column (rereadValue low) (rereadValue high)
  | .negated p => .negated p.reread

@[simp] theorem column_reread (p : Predicate) : p.reread.column = p.column := by
  induction p with
  | negated p ih => exact ih
  | _ => rfl

@[simp] theorem isComplete_reread (p : Predicate) : p.reread.isComplete = p.isComplete := by
  induction p with
  | negated p ih => exact ih
  | oneOf column values => cases values <;> rfl
  | _ => rfl

theorem reread_eq_self {p : Predicate} (h : ∀ value ∈ p.values, rereadValue value = value) : p.reread = p := by
  induction p with
  | compare column how value => rw [reread, h value List.mem_cons_self]
  | fits column how value => rw [reread, h value List.mem_cons_self]
  | isNull column => rfl
  | oneOf column values =>
    have hvalues : values.map rereadValue = values.map id := List.map_congr_left h
    rw [reread, hvalues, List.map_id]
  | between column low high =>
    rw [reread, h low List.mem_cons_self, h high (List.mem_cons_of_mem _ List.mem_cons_self)]
  | negated p ih => rw [reread, ih h]

end Predicate

namespace Condition

/-- The predicates that are joined, from left to right. -/
def predicates : Condition → List Predicate
  | .test p => [p]
  | .both c p => c.predicates ++ [p]
  | .either c p => c.predicates ++ [p]

def reread : Condition → Condition
  | .test p => .test p.reread
  | .both c p => .both c.reread p.reread
  | .either c p => .either c.reread p.reread

@[simp] theorem predicates_reread (c : Condition) : c.reread.predicates = c.predicates.map (·.reread) := by
  induction c with
  | test p => rfl
  | both c p ih => simp [reread, predicates, ih]
  | either c p ih => simp [reread, predicates, ih]

theorem reread_eq_self {c : Condition}
    (h : ∀ p ∈ c.predicates, ∀ value ∈ p.values, rereadValue value = value) : c.reread = c := by
  induction c with
  | test p => rw [reread, Predicate.reread_eq_self (h p List.mem_cons_self)]
  | both c p ih =>
    rw [reread, ih fun q hq => h q (List.mem_append_left _ hq),
      Predicate.reread_eq_self (h p (List.mem_append_right _ List.mem_cons_self))]
  | either c p ih =>
    rw [reread, ih fun q hq => h q (List.mem_append_left _ hq),
      Predicate.reread_eq_self (h p (List.mem_append_right _ List.mem_cons_self))]

end Condition

def Select.reread (s : Select) : Select :=
  { s with condition := s.condition.map (·.reread) }

theorem Select.reread_eq_self {s : Select}
    (h : ∀ c ∈ s.condition, ∀ p ∈ c.predicates, ∀ value ∈ p.values, rereadValue value = value) : s.reread = s := by
  have hcondition : s.condition.map (·.reread) = s.condition := by
    cases hc : s.condition with
    | none => rfl
    | some c => rw [Option.map_some, Condition.reread_eq_self (h c hc)]
  rw [reread, hcondition]

end QueryGate
