import QueryGate.Proofs.Service.Course
/-! The frame of a cursor: one column for each name and one value for each row, or the failure at the
first row that cannot be read. There is no frame of some of the rows. -/

namespace QueryGate

variable {σ : Type}

/-- A row of the width of the frame, every cell of which has a text. -/
def IsReadable (nullText : String) (width : Nat) (cells : List Cell) : Prop :=
  cells.length = width ∧ ∀ cell ∈ cells, ∃ text, cell.display nullText = .ok text

/-- Why a reading stops at rows, the first of which has the index: it has the wrong width, it has a cell
without a text, or it does not come. -/
inductive StopsAt (nullText : String) (width : Nat) (last : Option Raised) (index : Nat) :
    List (List Cell) → Failure → Prop
  | width {cells rest} (h : cells.length ≠ width) :
    StopsAt nullText width last index (cells :: rest)
      ⟨.scan, s!"Row {index} has {cells.length} values, expected {width}", none⟩
  | cell {before cell after rest f} (hw : (before ++ cell :: after).length = width)
      (hbefore : ∀ c ∈ before, ∃ text, c.display nullText = .ok text)
      (h : cell.display nullText = .error f) :
    StopsAt nullText width last index ((before ++ cell :: after) :: rest)
      ⟨.scan, s!"Failed to scan row {index}: {f.message}", none⟩
  | last {r} (h : last = some r) : StopsAt nullText width last index [] (scanError index r)

/-- A frame with the given columns in which each column has one value for each row, the text of its cell. -/
structure Frame.Tabulates (nullText : String) (names : List String) (rows : List (List Cell))
    (frame : Frame) : Prop where
  names : frame.columns.map (·.name) = names
  values : ∀ {i : Nat} {column : FrameColumn}, frame.columns[i]? = some column →
    List.Forall₂ (fun cells text => ∃ cell, cells[i]? = some cell ∧ cell.display nullText = .ok text)
      rows column.values

/-! Rows that can be read and rows that cannot. -/

theorem exists_cell_of_displayRow_error {nullText : String} {cells : List Cell} {f : Fault}
    (h : displayRow nullText cells = .error f) : ∃ before cell after,
      cells = before ++ cell :: after ∧ (∀ c ∈ before, ∃ text, c.display nullText = .ok text) ∧
      cell.display nullText = .error f := by
  induction cells with
  | nil => cases h
  | cons cell cells ih =>
    rw [displayRow_cons] at h
    rcases bind_eq_error h with hcell | ⟨text, hcell, h⟩
    · exact ⟨[], cell, cells, rfl, by simp, hcell⟩
    · rcases bind_eq_error h with hcells | ⟨texts, hcells, h⟩
      · obtain ⟨before, bad, after, rfl, hbefore, hbad⟩ := ih hcells
        refine ⟨cell :: before, bad, after, rfl, ?_, hbad⟩
        rintro c (_ | ⟨_, hc⟩)
        · exact ⟨text, hcell⟩
        · exact hbefore c hc
      · cases h

theorem isReadable_iff_displayRow {nullText : String} {width : Nat} {cells : List Cell} :
    IsReadable nullText width cells ↔
      cells.length = width ∧ ∃ texts, displayRow nullText cells = .ok texts := by
  refine and_congr_right fun _ => ⟨fun hcells => ?_, ?_⟩
  · cases h : displayRow nullText cells with
    | ok texts => exact ⟨texts, rfl⟩
    | error f =>
      obtain ⟨before, bad, after, rfl, -, hbad⟩ := exists_cell_of_displayRow_error h
      obtain ⟨text, htext⟩ := hcells bad (by simp)
      rw [hbad] at htext
      cases htext
  · rintro ⟨texts, h⟩ cell hcell
    obtain ⟨i, hi, rfl⟩ := List.mem_iff_getElem.mp hcell
    have htexts := List.forall₂_iff_get.mp (displayRow_forall₂ h)
    exact ⟨texts[i], htexts.2 i hi (htexts.1 ▸ hi)⟩

theorem StopsAt.not_readable {nullText : String} {width : Nat} {last : Option Raised} {index : Nat}
    {rows : List (List Cell)} {f : Failure} (h : StopsAt nullText width last index rows f) :
    ¬ (last = none ∧ ∀ cells ∈ rows, IsReadable nullText width cells) := by
  rintro ⟨hlast, hrows⟩
  cases h with
  | width h => exact h (hrows _ List.mem_cons_self).1
  | @cell before cell after rest f hw hbefore h =>
    obtain ⟨text, htext⟩ := (hrows _ List.mem_cons_self).2 cell (by simp)
    rw [h] at htext
    cases htext
  | last h =>
    rw [hlast] at h
    cases h

/-- A failed scan went through rows that can be read and stopped right after them. -/
theorem ScanFails.stopsAt {nullText : String} {width : Nat} {last : Option Raised} {start : Nat}
    {rows : List (List Cell)} {f : Failure} (h : ScanFails nullText width last start rows f) :
    ∃ before rest, rows = before ++ rest ∧
      (∀ cells ∈ before, IsReadable nullText width cells) ∧
      StopsAt nullText width last (start + before.length) rest f := by
  induction h with
  | width h => exact ⟨[], _, rfl, by simp, .width h⟩
  | cell hw h =>
    obtain ⟨before, bad, after, rfl, hbefore, hbad⟩ := exists_cell_of_displayRow_error h
    exact ⟨[], _, rfl, by simp, .cell hw hbefore hbad⟩
  | last h => exact ⟨[], _, rfl, by simp, .last h⟩
  | @later index cells texts rows f hw h hrest ih =>
    obtain ⟨before, rest, rfl, hbefore, hstop⟩ := ih
    have hindex : index + 1 + before.length = index + (cells :: before).length := by
      rw [List.length_cons]
      omega
    refine ⟨cells :: before, rest, rfl, ?_, hindex ▸ hstop⟩
    rintro c (_ | ⟨_, hc⟩)
    · exact isReadable_iff_displayRow.mpr ⟨hw, texts, h⟩
    · exact hbefore c hc

/-! The frame of rows that were read. -/

theorem Displayed.readable {nullText : String} {width : Nat} {rows : List (List Cell)}
    {texts : List (List String)} (h : Displayed nullText width rows texts) :
    ∀ cells ∈ rows, IsReadable nullText width cells := by
  intro cells hcells
  obtain ⟨i, hi⟩ := List.mem_iff_getElem?.mp hcells
  obtain ⟨row, -, hw, hd⟩ := h.getElem hi
  exact isReadable_iff_displayRow.mpr ⟨hw, row, hd⟩

theorem Displayed.forall₂_column {nullText : String} {width : Nat} {rows : List (List Cell)}
    {texts : List (List String)} (h : Displayed nullText width rows texts) {i : Nat}
    {column : List String} (hc : (columnValues width texts)[i]? = some column) :
    List.Forall₂ (fun cells text => ∃ cell, cells[i]? = some cell ∧ cell.display nullText = .ok text)
      rows column := by
  induction h generalizing column with
  | nil =>
    obtain rfl := List.eq_of_mem_replicate (List.mem_of_getElem? hc)
    exact .nil
  | @cons cells row rows texts hrow hrows ih =>
    rw [columnValues_cons, List.getElem?_zipWith_eq_some] at hc
    obtain ⟨text, below, ht, hb, rfl⟩ := hc
    obtain ⟨hi, rfl⟩ := List.getElem?_eq_some_iff.mp ht
    obtain ⟨hlength, hcells⟩ := List.forall₂_iff_get.mp (displayRow_forall₂ hrow.2)
    have hlt : i < cells.length := hlength ▸ hi
    exact .cons ⟨cells[i], List.getElem?_eq_getElem hlt, hcells i hlt hi⟩ (ih hb)

theorem Displayed.tabulates {nullText : String} {names : List String} {rows : List (List Cell)}
    {texts : List (List String)} (h : Displayed nullText names.length rows texts) (name : String) :
    (Frame.ofRows name names texts).Tabulates nullText names rows := by
  refine ⟨h.map_name name, fun {i column} hc => ?_⟩
  rw [Frame.ofRows, List.getElem?_zipWith_eq_some] at hc
  obtain ⟨columnName, values, -, hv, rfl⟩ := hc
  exact h.forall₂_column hv

/-! Reading a cursor. -/

/-- Reading under given names gives the frame of all rows, or stops at the first row that cannot be
read. -/
theorem materialize_given (cursor : Cursor σ) (nullText name : String) (names : List String)
    (s : Session σ) :
    (∃ frame, ((materialize cursor nullText name (some names)).outcome s).1 = .ok frame ∧
      (cursor.rows.deliver s.outside).2 = none ∧
      (∀ cells ∈ (cursor.rows.deliver s.outside).1, IsReadable nullText names.length cells) ∧
      frame.name = name ∧ frame.Tabulates nullText names (cursor.rows.deliver s.outside).1) ∨
    ∃ f before rest,
      ((materialize cursor nullText name (some names)).outcome s).1 = .error (.failure f) ∧
      (cursor.rows.deliver s.outside).1 = before ++ rest ∧
      (∀ cells ∈ before, IsReadable nullText names.length cells) ∧
      StopsAt nullText names.length (cursor.rows.deliver s.outside).2 before.length rest f := by
  rcases materialize_cases cursor nullText name names s with ⟨f, hf, hfails⟩ | ⟨texts, hok, hlast, hd⟩
  · obtain ⟨before, rest, hrows, hbefore, hstop⟩ := hfails.stopsAt
    rw [Nat.zero_add] at hstop
    exact .inr ⟨f, before, rest, hf, hrows, hbefore, hstop⟩
  · exact .inl ⟨Frame.ofRows name names texts, hok, hlast, hd.readable, rfl, hd.tabulates name⟩

theorem materialize_none_outcome (cursor : Cursor σ) (nullText name : String) (s : Session σ) :
    (materialize cursor nullText name none).outcome s =
      match cursor.columns.outcome s with
      | (.ok names, s') => (materialize cursor nullText name (some names)).outcome s'
      | (.error r, s') => (.error (.failure (columnsError r)), s') := by
  simp only [materialize, pure_bind]
  rw [Act.outcome_bind, readColumns_outcome]
  rcases cursor.columns.outcome s with ⟨r | names, s'⟩ <;> rfl

/-- A frame comes just when the columns come, all rows come and each of them can be read, and it has a
value for every cell. Otherwise the columns failed, or the reading stopped at the first row that cannot
be read. Columns that were read before give the same and are not demanded again. -/
theorem materialize_spec (cursor : Cursor σ) (nullText name : String) (s : Session σ) :
    ((∃ frame, ((materialize cursor nullText name none).outcome s).1 = .ok frame) ↔
      ∃ names s', cursor.columns.outcome s = (.ok names, s') ∧
        (cursor.rows.deliver s'.outside).2 = none ∧
        ∀ cells ∈ (cursor.rows.deliver s'.outside).1, IsReadable nullText names.length cells) ∧
    (∀ frame, ((materialize cursor nullText name none).outcome s).1 = .ok frame →
      ∃ names s', cursor.columns.outcome s = (.ok names, s') ∧ frame.name = name ∧
        frame.Tabulates nullText names (cursor.rows.deliver s'.outside).1) ∧
    (∀ e, ((materialize cursor nullText name none).outcome s).1 = .error e →
      (∃ r s', cursor.columns.outcome s = (.error r, s') ∧ e = .failure (columnsError r)) ∨
      ∃ names s' f before rest, cursor.columns.outcome s = (.ok names, s') ∧ e = .failure f ∧
        (cursor.rows.deliver s'.outside).1 = before ++ rest ∧
        (∀ cells ∈ before, IsReadable nullText names.length cells) ∧
        StopsAt nullText names.length (cursor.rows.deliver s'.outside).2 before.length rest f) ∧
    (cursor.readColumns >>= fun names => materialize cursor nullText name (some names)) =
      materialize cursor nullText name none ∧
    ∀ (names : List String) (t : Session (σ × List Demand)), ∃ count,
      (materialize cursor.demanded nullText name (some names)).outcome t =
        (((materialize cursor nullText name (some names)).outcome t.bare).1,
          ((materialize cursor nullText name (some names)).outcome t.bare).2.withDemands
            (t.outside.2 ++ List.replicate count .row)) := by
  have hsame : (cursor.readColumns >>= fun names => materialize cursor nullText name (some names)) =
      materialize cursor nullText name none := by
    simp only [materialize, pure_bind]
  rw [materialize_none_outcome]
  cases hc : cursor.columns.outcome s with
  | mk result s' =>
    cases result with
    | error r =>
      refine ⟨⟨?_, ?_⟩, ?_, ?_, hsame, materialize_demanded cursor nullText name⟩
      · rintro ⟨frame, ⟨⟩⟩
      · rintro ⟨names, s₁, ⟨⟩, -⟩
      · rintro frame ⟨⟩
      · rintro e ⟨⟩
        exact .inl ⟨r, s', rfl, rfl⟩
    | ok names =>
      rcases materialize_given cursor nullText name names s' with
        ⟨frame, hrun, hlast, hrows, hname, htable⟩ | ⟨f, before, rest, hrun, hrows, hbefore, hstop⟩
      · refine ⟨⟨fun _ => ⟨names, s', rfl, hlast, hrows⟩, fun _ => ⟨frame, hrun⟩⟩, ?_, ?_, hsame,
          materialize_demanded cursor nullText name⟩
        · intro other hother
          obtain rfl : frame = other := Except.ok.inj (hrun.symm.trans hother)
          exact ⟨names, s', rfl, hname, htable⟩
        · intro e he
          cases hrun.symm.trans he
      · refine ⟨⟨?_, ?_⟩, ?_, ?_, hsame, materialize_demanded cursor nullText name⟩
        · rintro ⟨frame, hframe⟩
          cases hrun.symm.trans hframe
        · rintro ⟨names₁, s₁, heq, hlast, hreadable⟩
          obtain ⟨rfl, rfl⟩ : names = names₁ ∧ s' = s₁ := by simpa using heq
          refine absurd ⟨hlast, fun cells hcells => hreadable cells ?_⟩ hstop.not_readable
          rw [hrows]
          exact List.mem_append_right _ hcells
        · intro frame hframe
          cases hrun.symm.trans hframe
        · intro e he
          obtain rfl : Raised.failure f = e := Except.error.inj (hrun.symm.trans he)
          exact .inr ⟨names, s', f, before, rest, rfl, rfl, hrows, hbefore, hstop⟩

theorem materialize_spec_twins :
    let rows : List (List Cell) := [[.text "x", .null], [.null, .text "y"]]
    let cursor := rehearsedCursor 0 ⟨.ok ["a", "a"], rows, none⟩
    ∃ frame, ((materialize cursor "-" "response" none).outcome (.start .empty)).1 = .ok frame ∧
      frame.name = "response" ∧ frame.Tabulates "-" ["a", "a"] rows := by
  intro rows cursor
  obtain ⟨hiff, htable, -⟩ := materialize_spec cursor "-" "response" (.start .empty)
  have hrows : ∀ cells ∈ rows, IsReadable "-" 2 cells := by
    simp [rows, IsReadable, Cell.display]
  obtain ⟨frame, hframe⟩ := hiff.mpr ⟨["a", "a"], _, rfl, rfl, hrows⟩
  obtain ⟨names, s', hcolumns, hname, htabulates⟩ := htable frame hframe
  cases hcolumns
  exact ⟨frame, hframe, hname, htabulates⟩

end QueryGate
