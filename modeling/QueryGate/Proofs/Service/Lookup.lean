import QueryGate.Proofs.Service.Picking
/-! The course of one lookup: what it asks of the handle and of the cursor, in order, and how it ends. The
statement is sent once all names are there, and a cursor that it opens is read and closed. -/

namespace QueryGate

variable {σ : Type}

/-- What may be looked up, with the names it is looked up under. -/
inductive Lookup
  | schemas (catalog : String)
  | tables (catalog schema : String)
  | columns (catalog schema table : String)
deriving DecidableEq

namespace Lookup

def parts : Lookup → List (PathPart × String)
  | .schemas catalog => [(.catalog, catalog)]
  | .tables catalog schema => [(.catalog, catalog), (.schema, schema)]
  | .columns catalog schema table => [(.catalog, catalog), (.schema, schema), (.table, table)]

/-- The first part that is empty. -/
def missing? (l : Lookup) : Option PathPart :=
  (l.parts.find? (·.2.isEmpty)).map (·.1)

def statement : Lookup → String
  | .schemas catalog => schemasStatement catalog
  | .tables catalog schema => tablesStatement catalog schema
  | .columns catalog schema table => columnsStatement catalog schema table

def pick : Lookup → Cursor σ → Act σ (List String)
  | .schemas _ => pickNames 0
  | .tables _ _ => pickTables
  | .columns _ _ _ => pickColumns

def run (handle : Handle σ) (timeout : Amount) : Lookup → Act σ (List String)
  | .schemas catalog => listSchemas handle timeout catalog
  | .tables catalog schema => listTables handle timeout catalog schema
  | .columns catalog schema table => listColumns handle timeout catalog schema table

theorem run_eq (handle : Handle σ) (timeout : Amount) (l : Lookup) : l.run handle timeout = (do
    requireParts l.parts
    lookUp handle timeout l.statement l.pick) := by
  cases l <;> rfl

end Lookup

theorem requireParts_eq (parts : List (PathPart × String)) : (requireParts parts : Act σ Unit) =
    match parts.find? (·.2.isEmpty) with
    | some (part, _) => Act.raise (.failure part.failure)
    | none => pure () := by
  induction parts with
  | nil => rfl
  | cons first rest ih =>
    obtain ⟨part, name⟩ := first
    by_cases h : name.isEmpty = true
    · simp [requireParts, h]
    · simp [requireParts, h, ih]

/-! Reading an open result. -/

/-- The place of the column that holds the names of tables: the first column with the first of the known
names that there is, else the second column, else the first. -/
inductive IsTableColumn (columns : List String) : Nat → Prop
  | known {front back : List String} {wanted : String} {index : Nat}
    (hwanted : tableNameColumns = front ++ wanted :: back)
    (hfront : ∀ name ∈ front, ∀ column ∈ columns, toLowerText column ≠ name)
    (hindex : (columns[index]?).map toLowerText = some wanted)
    (hfirst : ∀ i < index, (columns[i]?).map toLowerText ≠ some wanted) : IsTableColumn columns index
  | second (hnone : ∀ name ∈ tableNameColumns, ∀ column ∈ columns, toLowerText column ≠ name)
    (hmany : 1 < columns.length) : IsTableColumn columns 1
  | only (hnone : ∀ name ∈ tableNameColumns, ∀ column ∈ columns, toLowerText column ≠ name)
    (hfew : columns.length ≤ 1) : IsTableColumn columns 0

theorem isTableColumn_tableNameIndex (columns : List String) :
    IsTableColumn columns (tableNameIndex (columns.map toLowerText)) := by
  unfold tableNameIndex
  cases hfind : tableNameColumns.find? (columns.map toLowerText).contains with
  | some wanted =>
    obtain ⟨hmem, front, back, hsplit, hfront⟩ := List.find?_eq_some_iff_append.mp hfind
    have hwanted : wanted ∈ columns.map toLowerText := by simpa using hmem
    refine .known hsplit (fun name hname column hcolumn heq => ?_) ?_ fun i hi heq => ?_
    · have hno := hfront name hname
      simp only [List.contains_eq_mem, Bool.not_eq_true', decide_eq_false_iff_not] at hno
      exact hno (heq ▸ List.mem_map_of_mem hcolumn)
    · rw [← List.getElem?_map]
      exact List.getElem?_idxOf hwanted
    · rw [← List.getElem?_map] at heq
      obtain ⟨hlength, hvalue⟩ := List.getElem?_eq_some_iff.mp heq
      simpa [hvalue] using List.not_of_lt_findIdx hi
  | none =>
    have hnone : ∀ name ∈ tableNameColumns, ∀ column ∈ columns, toLowerText column ≠ name := by
      intro name hname column hcolumn heq
      have hno := List.find?_eq_none.mp hfind name hname
      exact hno (by simpa using ⟨column, hcolumn, heq⟩)
    dsimp only
    split
    · rename_i hmany
      exact .second hnone (by simpa using hmany)
    · rename_i hfew
      exact .only hnone (by simpa using hfew)

/-- How reading the result of a lookup ends, with what was asked of the cursor. -/
inductive Lookup.Reads (cursor : Cursor σ) (s : Session σ) :
    Lookup → List Demand → Except Raised (List String) → Prop
  | schemas {catalog : String} {count : Nat} {result : Except Raised (List String)}
    (h : Picks (CellNames 0) (fun _ => False) (CellFails 0) (cursor.rows.deliver s.outside).2
      (cursor.rows.deliver s.outside).1 result) :
    Reads cursor s (.schemas catalog) (List.replicate count .row) result
  | columnless {catalog schema : String} {r : Raised} {s' : Session σ}
    (h : cursor.columns.outcome s = (.error r, s')) :
    Reads cursor s (.tables catalog schema) [.columns] (.error r)
  | tables {catalog schema : String} {columns : List String} {index count : Nat} {s' : Session σ}
    {result : Except Raised (List String)} (hcolumns : cursor.columns.outcome s = (.ok columns, s'))
    (hindex : IsTableColumn columns index)
    (h : Picks (CellNames index) (fun _ => False) (CellFails index) (cursor.rows.deliver s'.outside).2
      (cursor.rows.deliver s'.outside).1 result) :
    Reads cursor s (.tables catalog schema) (.columns :: List.replicate count .row) result
  | columns {catalog schema table : String} {count : Nat} {result : Except Raised (List String)}
    (h : Picks (fun cells name => CellNames 0 cells name ∧ ¬ EndsColumns cells) EndsColumns (CellFails 0)
      (cursor.rows.deliver s.outside).2 (cursor.rows.deliver s.outside).1 result) :
    Reads cursor s (.columns catalog schema table) (List.replicate count .row) result

theorem Lookup.pick_demanded (l : Lookup) (cursor : Cursor σ) (s : Session (σ × List Demand)) :
    ∃ demands result after, (l.pick cursor).outcome s.bare = (result, after) ∧
      (l.pick cursor.demanded).outcome s = (result, after.withDemands (s.outside.2 ++ demands)) ∧
      l.Reads cursor s.bare demands result := by
  have hrows : cursor.demanded.rows = cursor.rows.demanded := rfl
  cases l with
  | schemas catalog =>
    obtain ⟨count, result, after, hplain, hcounted, hpicks⟩ :=
      pickAll_demanded (pickOf_cellName 0) cursor.rows s
    refine ⟨List.replicate count .row, result, after, ?_, ?_, .schemas hpicks⟩
    · rw [pick, pickNames_eq, hplain]
    · rw [pick, pickNames_eq, hrows, hcounted]
  | tables catalog schema =>
    have hcolumns : cursor.demanded.columns = cursor.columns.demanding .columns := rfl
    simp only [pick, pickTables, pickNames_eq, hrows, Act.outcome_bind, hcolumns,
      Act.outcome_demanding]
    cases hc : cursor.columns.outcome s.bare with
    | mk names s' =>
      cases names with
      | error r => exact ⟨_, _, _, rfl, rfl, .columnless hc⟩
      | ok columns =>
        obtain ⟨count, result, after, hplain, hcounted, hpicks⟩ :=
          pickAll_demanded (pickOf_cellName (tableNameIndex (columns.map toLowerText))) cursor.rows
            (s'.withDemands (s.outside.2 ++ [.columns]))
        refine ⟨.columns :: List.replicate count .row, result, after, hplain, hcounted.trans ?_,
          .tables hc (isTableColumn_tableNameIndex columns) hpicks⟩
        simp [Session.withDemands]
  | columns catalog schema table =>
    obtain ⟨count, result, after, hplain, hcounted, hpicks⟩ :=
      pickAll_demanded pickOf_columnName cursor.rows s
    refine ⟨List.replicate count .row, result, after, ?_, ?_, .columns hpicks⟩
    · rw [pick, pickColumns_eq, hplain]
    · rw [pick, pickColumns_eq, hrows, hcounted]

/-! Sending the statement. -/

/-- Sends the statement of a lookup and reads its result, whatever is raised on the way. -/
def Lookup.send (handle : Handle σ) (timeout : Amount) (l : Lookup) : Act σ (List String) := do
  let cursor ← handle.execute l.statement timeout
  cursor.use l.pick

/-- How a statement that is sent ends, with all that was asked. A cursor that it opened is read and then
closed; an error of closing takes the place of what was read. -/
inductive Lookup.Sent (handle : Handle σ) (timeout : Amount) (before : Session σ) (l : Lookup) :
    List Demand → Except Raised (List String) → Prop
  | unopened {r : Raised} {s : Session σ}
    (h : (handle.execute l.statement timeout).outcome before = (.error r, s)) :
    Sent handle timeout before l [.execute l.statement] (.error r)
  | unclosed {cursor : Cursor σ} {s s' s'' : Session σ} {demands : List Demand}
    {result : Except Raised (List String)} {r : Raised}
    (h : (handle.execute l.statement timeout).outcome before = (.ok cursor, s))
    (hpick : (l.pick cursor).outcome s = (result, s')) (hreads : l.Reads cursor s demands result)
    (hclose : cursor.close.outcome s' = (.error r, s'')) :
    Sent handle timeout before l (.execute l.statement :: (demands ++ [.close])) (.error r)
  | closed {cursor : Cursor σ} {s s' s'' : Session σ} {demands : List Demand}
    {result : Except Raised (List String)}
    (h : (handle.execute l.statement timeout).outcome before = (.ok cursor, s))
    (hpick : (l.pick cursor).outcome s = (result, s')) (hreads : l.Reads cursor s demands result)
    (hclose : cursor.close.outcome s' = (.ok (), s'')) :
    Sent handle timeout before l (.execute l.statement :: (demands ++ [.close])) result

theorem Lookup.send_demanded (handle : Handle σ) (timeout : Amount) (l : Lookup)
    (s : Session (σ × List Demand)) : ∃ demands result after,
      (l.send handle timeout).outcome s.bare = (result, after) ∧
      (l.send handle.demanded timeout).outcome s =
        (result, after.withDemands (s.outside.2 ++ demands)) ∧
      l.Sent handle timeout s.bare demands result := by
  have hexecute : handle.demanded.execute l.statement timeout =
    Cursor.demanded <$> (handle.execute l.statement timeout).demanding (.execute l.statement) := rfl
  simp only [send, Act.outcome_bind, hexecute, Act.outcome_map, Act.outcome_demanding]
  cases hx : (handle.execute l.statement timeout).outcome s.bare with
  | mk opened s' =>
    cases opened with
    | error r => exact ⟨_, _, _, rfl, rfl, .unopened hx⟩
    | ok cursor =>
      obtain ⟨demands, result, read, hplain, hcounted, hreads⟩ :=
        l.pick_demanded cursor (s'.withDemands (s.outside.2 ++ [.execute l.statement]))
      rw [Session.bare_withDemands] at hplain hreads
      have hdemanded : cursor.demanded.close = cursor.close.demanding .close := rfl
      simp only [Except.map, Cursor.use, Act.outcome_andFinally, hplain, hcounted, hdemanded,
        Act.outcome_demanding, Session.bare_withDemands]
      cases hclose : cursor.close.outcome read with
      | mk closed after =>
        cases closed with
        | error r =>
          refine ⟨_, _, _, rfl, ?_, .unclosed hx hplain hreads hclose⟩
          simp [Session.withDemands]
        | ok u =>
          refine ⟨_, _, _, rfl, ?_, .closed hx hplain hreads hclose⟩
          simp [Session.withDemands]

/-- An error met in a lookup as it leaves the lookup. -/
def lookupError (sql : String) : Raised → Failure
  | .failure f => f
  | .fault f => ⟨.remote, "Failed to run '" ++ sql ++ "': " ++ f.message, some f.kind⟩

/-- What is logged about the result of a lookup. -/
def lookupLines (trace : Option String) : Except Raised (List String) → List LogEntry
  | .error (.fault f) => [⟨.error, namespaceLogger, "Namespace query failed: " ++ f.message, trace⟩]
  | _ => []

theorem outcome_lookUp (handle : Handle σ) (timeout : Amount) (l : Lookup) {s s' : Session σ}
    {result : Except Raised (List String)} (h : (l.send handle timeout).outcome s = (result, s')) :
    (lookUp handle timeout l.statement l.pick).outcome s =
      (result.mapError fun r => .failure (lookupError l.statement r),
        { s' with log := s'.log ++ lookupLines s'.trace result }) := by
  have hsend : lookUp handle timeout l.statement l.pick = (l.send handle timeout).onFault fun f => (do
      Act.log .error namespaceLogger ("Namespace query failed: " ++ f.message)
      Act.fail .remote ("Failed to run '" ++ l.statement ++ "': " ++ f.message) (some f.kind)) := rfl
  rw [hsend, Act.outcome_onFault, h]
  rcases result with (f | f) | names
  · simp [Except.mapError, lookupError, lookupLines]
  · rfl
  · simp [Except.mapError, lookupLines]

end QueryGate
