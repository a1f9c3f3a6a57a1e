import QueryGate.Proofs.Service.Course
import QueryGate.Service.Namespace
/-! Picking names from the rows of a result, one row after the other. Picking ends with the rows, at a row
behind which there are no more names, or with the first error, and asks for no row behind that. -/

namespace QueryGate

variable {σ : Type}

/-- Takes the name of a row to the names before it. Nothing stands for a row that ends the names. -/
def pickStep (pick : List Cell → Except Raised (Option String)) (names : List String)
    (cells : List Cell) : Except Raised (ForInStep (List String)) :=
  match pick cells with
  | .ok (some name) => .ok (.yield (name :: names))
  | .ok none => .ok (.done names)
  | .error r => .error r

/-- Picks the names of all rows. -/
def pickAll (pick : List Cell → Except Raised (Option String)) (rows : Rows σ) :
    Act σ (List String) := do
  return (← rows.fold (fun names cells => Act.given (pickStep pick names cells)) []).reverse

theorem Rows.fold_congr {β : Type} {step step' : β → List Cell → Act σ (ForInStep β)}
    (h : ∀ b cells, step b cells = step' b cells) (rows : Rows σ) (b : β) :
    rows.fold step b = rows.fold step' b := by
  rw [show step = step' from funext fun b => funext fun cells => h b cells]

theorem pickNames_eq (index : Nat) (cursor : Cursor σ) :
    pickNames index cursor = pickAll (fun cells => (cellName index cells).map some) cursor.rows := by
  refine congrArg (fun picked : Act σ (List String) => do return (← picked).reverse)
    (Rows.fold_congr (fun names cells => ?_) cursor.rows [])
  unfold pickStep
  cases hcells : cellName index cells <;> simp only [hcells] <;> rfl

theorem pickColumns_eq (cursor : Cursor σ) : pickColumns cursor = pickAll columnName cursor.rows := by
  refine congrArg (fun picked : Act σ (List String) => do return (← picked).reverse)
    (Rows.fold_congr (fun names cells => ?_) cursor.rows [])
  unfold pickStep
  rcases columnName cells with r | _ | name <;> rfl

/-! What is picked from rows that are all there. -/

/-- How picking ends: which rows have which names, which row ends the names, and which row has an error
in the place of a name. -/
inductive Picks (named : List Cell → String → Prop) (ends : List Cell → Prop)
    (faulty : List Cell → Raised → Prop) (last : Option Raised) :
    List (List Cell) → Except Raised (List String) → Prop
  | whole {rows names} (h : List.Forall₂ named rows names) (hlast : last = none) :
    Picks named ends faulty last rows (.ok names)
  | ended {front cells back names} (h : List.Forall₂ named front names) (hend : ends cells) :
    Picks named ends faulty last (front ++ cells :: back) (.ok names)
  | faulty {front cells back names r} (h : List.Forall₂ named front names) (hfault : faulty cells r) :
    Picks named ends faulty last (front ++ cells :: back) (.error r)
  | broken {rows names r} (h : List.Forall₂ named rows names) (hlast : last = some r) :
    Picks named ends faulty last rows (.error r)

variable {named : List Cell → String → Prop} {ends : List Cell → Prop}
  {faulty : List Cell → Raised → Prop} {last : Option Raised}

theorem Picks.cons {cells : List Cell} {name : String} (hname : named cells name) {rows : List (List Cell)}
    {result : Except Raised (List String)} (h : Picks named ends faulty last rows result) :
    Picks named ends faulty last (cells :: rows) (result.map (name :: ·)) := by
  cases h with
  | whole h hlast => exact .whole (.cons hname h) hlast
  | @ended front cells' back names h hend =>
    change Picks named ends faulty last ((cells :: front) ++ cells' :: back) _
    exact .ended (.cons hname h) hend
  | @faulty front cells' back names r h hfault =>
    change Picks named ends faulty last ((cells :: front) ++ cells' :: back) _
    exact .faulty (.cons hname h) hfault
  | broken h hlast => exact .broken (.cons hname h) hlast

/-- What the pick of a row tells of it. -/
def PickOf (pick : List Cell → Except Raised (Option String)) (named : List Cell → String → Prop)
    (ends : List Cell → Prop) (faulty : List Cell → Raised → Prop) : Prop :=
  ∀ cells,
    match pick cells with
    | .ok (some name) => named cells name
    | .ok none => ends cells
    | .error r => faulty cells r

/-- Picking does not change the session but for what the rows themselves do, and each row looked at was
asked for once. -/
theorem pickFold_demanded {pick : List Cell → Except Raised (Option String)}
    (hpick : PickOf pick named ends faulty) (rows : Rows σ) (names : List String)
    (s : Session (σ × List Demand)) : ∃ count result after,
      (rows.fold (fun names cells => Act.given (pickStep pick names cells)) names).outcome s.bare =
        (result.map (·.reverse ++ names), after) ∧
      (rows.demanded.fold (fun names cells => Act.given (pickStep pick names cells)) names).outcome s =
        (result.map (·.reverse ++ names),
          after.withDemands (s.outside.2 ++ List.replicate count .row)) ∧
      Picks named ends faulty (rows.deliver s.outside.1).2 (rows.deliver s.outside.1).1 result := by
  -- The names picked before a row are the only thing that changes along the rows.
  induction rows generalizing names s with
  | done => exact ⟨1, .ok [], s.bare, rfl, rfl, .whole .nil rfl⟩
  | broken r => exact ⟨1, .error r, s.bare, rfl, rfl, .broken .nil rfl⟩
  | row cells rest ih =>
    simp only [Rows.demanded, Rows.fold, Act.outcome_bind, Act.outcome_outside, Act.outcome_change,
      Act.outcome_given, Rows.deliver, pickStep]
    have hcells := hpick cells
    cases hpicked : pick cells with
    | error r =>
      rw [hpicked] at hcells
      exact ⟨1, .error r, s.bare, rfl, rfl, .faulty .nil hcells⟩
    | ok found =>
      rw [hpicked] at hcells
      cases found with
      | none => exact ⟨1, .ok [], s.bare, rfl, rfl, .ended .nil hcells⟩
      | some name =>
        obtain ⟨count, result, after, hplain, hcounted, hpicks⟩ := ih (name :: names)
          { s with outside := (s.outside.1, s.outside.2 ++ [.row]) }
        have hresult : result.map (·.reverse ++ name :: names) =
            (result.map (name :: ·)).map (·.reverse ++ names) := by
          cases result <;> simp [Except.map]
        rw [hresult] at hplain hcounted
        refine ⟨count + 1, result.map (name :: ·), after, hplain, hcounted.trans ?_,
          hpicks.cons hcells⟩
        simp [List.replicate_succ]
  | fetch move next ih =>
    simp only [Rows.demanded, Rows.fold, Act.outcome_bind, Act.outcome_outside, Act.outcome_change,
      Rows.deliver]
    exact ih s.outside.1 names { s with outside := (move s.outside.1, s.outside.2) }

theorem pickAll_demanded {pick : List Cell → Except Raised (Option String)}
    (hpick : PickOf pick named ends faulty) (rows : Rows σ) (s : Session (σ × List Demand)) :
    ∃ count result after, (pickAll pick rows).outcome s.bare = (result, after) ∧
      (pickAll pick rows.demanded).outcome s =
        (result, after.withDemands (s.outside.2 ++ List.replicate count .row)) ∧
      Picks named ends faulty (rows.deliver s.outside.1).2 (rows.deliver s.outside.1).1 result := by
  obtain ⟨count, result, after, hplain, hcounted, hpicks⟩ := pickFold_demanded hpick rows [] s
  refine ⟨count, result, after, ?_, ?_, hpicks⟩
  · simp only [pickAll, Act.outcome_bind, hplain]
    cases result <;> simp [Except.map]
  · simp only [pickAll, Act.outcome_bind, hcounted]
    cases result <;> simp [Except.map]

/-! Single rows. -/

/-- The name is the text of the cell at a place. -/
def CellNames (index : Nat) (cells : List Cell) (name : String) : Prop :=
  ∃ cell, cells[index]? = some cell ∧ cell.plainText = .ok name

/-- There is no cell at a place, or one that has no text. -/
def CellFails (index : Nat) (cells : List Cell) (r : Raised) : Prop :=
  (cells.length ≤ index ∧ r = .fault ⟨.index, "tuple index out of range"⟩) ∨
    ∃ cell f, cells[index]? = some cell ∧ cell.plainText = .error f ∧ r = .fault f

/-- Behind such a row there are no more columns: it begins with nothing, with a blank text or with a
number sign. -/
def EndsColumns (cells : List Cell) : Prop :=
  cells.head? = some .null ∨
    ∃ name, CellNames 0 cells name ∧ (isBlankText name = true ∨ name.toList.head? = some '#')

theorem pickOf_cellName (index : Nat) : PickOf (fun cells => (cellName index cells).map some)
    (CellNames index) (fun _ => False) (CellFails index) := by
  intro cells
  dsimp only [cellName]
  cases hcell : cells[index]? with
  | none => exact Or.inl ⟨List.getElem?_eq_none_iff.mp hcell, rfl⟩
  | some cell =>
    dsimp only
    cases htext : cell.plainText with
    | error f => exact Or.inr ⟨cell, f, hcell, htext, rfl⟩
    | ok text => exact ⟨cell, hcell, htext⟩

theorem columnName_cons {cell : Cell} (hnull : cell ≠ .null) (rest : List Cell) :
    columnName (cell :: rest) =
      match cell.plainText with
      | .error f => .error (.fault f)
      | .ok name =>
        .ok (if isBlankText name || name.toList.head? = some '#' then none else some name) := by
  unfold columnName
  split
  · simp_all
  · simp_all
  · rename_i first _ hfirst
    obtain rfl : cell = first := Option.some.inj hfirst
    rfl

theorem pickOf_columnName : PickOf columnName
    (fun cells name => CellNames 0 cells name ∧ ¬ EndsColumns cells) EndsColumns (CellFails 0) := by
  intro cells
  cases cells with
  | nil => exact Or.inl ⟨Nat.le_refl 0, rfl⟩
  | cons cell rest =>
    by_cases hnull : cell = .null
    · rw [hnull]
      exact Or.inl rfl
    · rw [columnName_cons hnull]
      cases htext : cell.plainText with
      | error f => exact Or.inr ⟨cell, f, rfl, htext, rfl⟩
      | ok text =>
        have hnames : CellNames 0 (cell :: rest) text := ⟨cell, rfl, htext⟩
        by_cases hend : (isBlankText text || decide (text.toList.head? = some '#')) = true
        · simp only [hend, if_true]
          exact Or.inr ⟨text, hnames, by simpa using hend⟩
        · simp only [hend]
          refine ⟨hnames, ?_⟩
          rintro (hhead | ⟨other, ⟨first, hfirst, hother⟩, hends⟩)
          · exact hnull (Option.some.inj hhead)
          · obtain rfl : cell = first := Option.some.inj hfirst
            obtain rfl : text = other := Except.ok.inj (htext.symm.trans hother)
            exact hend (by simpa using hends)

end QueryGate
