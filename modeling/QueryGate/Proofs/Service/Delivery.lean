import QueryGate.Proofs.Session
import QueryGate.Service.Query
import Mathlib.Data.List.Forall2
/-! What the rows of a cursor deliver and what a scan makes of them: a frame that shows every cell of
every row, or the failure of the first row that cannot be shown. -/

namespace QueryGate

variable {σ : Type}

/-- All rows from here on, with the error after them if there is one. -/
def Rows.deliver : Rows σ → σ → List (List Cell) × Option Raised
  | .done, _ => ([], none)
  | .broken r, _ => ([], some r)
  | .row cells rest, w => (cells :: (rest.deliver w).1, (rest.deliver w).2)
  | .fetch move next, w => (next w).deliver (move w)

/-- An error met at a row as it leaves a scan. -/
def scanError (index : Nat) : Raised → Failure
  | .failure f => f
  | .fault f => ⟨.scan, s!"Failed to scan row {index}: {f.message}", none⟩

/-- A scan of rows that are all there. -/
def scanAll (nullText : String) (width : Nat) (last : Option Raised) :
    List (List Cell) → Scanned → Except Raised Scanned
  | [], done =>
    match last with
    | none => .ok done
    | some r => .error (.failure (scanError done.count r))
  | cells :: rest, done =>
    match scanRow nullText width done.count cells with
    | .ok texts => scanAll nullText width last rest ⟨done.count + 1, texts :: done.rows⟩
    | .error r => .error (.failure (scanError done.count r))

theorem outcome_scanFault (index : Nat) (r : Raised) (s : Session σ) :
    (scanRows.scanFault index r : Act σ Scanned).outcome s
      = (.error (.failure (scanError index r)), s) := by
  cases r <;> rfl

/-- A scan gives what the delivered rows give, however they come in. -/
theorem scanRows_result (nullText : String) (width : Nat) (rows : Rows σ) (done : Scanned)
    (s : Session σ) : ((scanRows nullText width rows done).outcome s).1 =
      scanAll nullText width (rows.deliver s.outside).2 (rows.deliver s.outside).1 done := by
  induction rows generalizing done s with
  | done => rfl
  | broken r => simp only [scanRows, outcome_scanFault, Rows.deliver, scanAll]
  | row cells rest ih =>
    simp only [scanRows, Rows.deliver, scanAll]
    cases scanRow nullText width done.count cells with
    | ok texts => exact ih _ s
    | error r => exact congrArg Prod.fst (outcome_scanFault _ r s)
  | fetch move next ih =>
    simp only [scanRows, Act.outcome_bind, Act.outcome_outside, Act.outcome_change, Rows.deliver, ih]

/-- How a scan fails, the rows being counted from an index: a row of the wrong width, a cell that has no
text, or the error that ends the rows. -/
inductive ScanFails (nullText : String) (width : Nat) (last : Option Raised) :
    Nat → List (List Cell) → Failure → Prop
  | width {index cells rest} (h : cells.length ≠ width) :
    ScanFails nullText width last index (cells :: rest)
      ⟨.scan, s!"Row {index} has {cells.length} values, expected {width}", none⟩
  | cell {index cells rest f} (hw : cells.length = width)
      (h : displayRow nullText cells = .error f) :
    ScanFails nullText width last index (cells :: rest)
      ⟨.scan, s!"Failed to scan row {index}: {f.message}", none⟩
  | last {index r} (h : last = some r) : ScanFails nullText width last index [] (scanError index r)
  | later {index cells texts rest f} (hw : cells.length = width)
      (h : displayRow nullText cells = .ok texts)
      (hrest : ScanFails nullText width last (index + 1) rest f) :
    ScanFails nullText width last index (cells :: rest) f

/-- Rows of the width of a frame, with the texts of their cells. -/
def Displayed (nullText : String) (width : Nat) : List (List Cell) → List (List String) → Prop :=
  List.Forall₂ fun cells texts => cells.length = width ∧ displayRow nullText cells = .ok texts

theorem scanAll_result (nullText : String) (width : Nat) (last : Option Raised)
    (rows : List (List Cell)) (done : Scanned) :
    (∃ f, scanAll nullText width last rows done = .error (.failure f) ∧
      ScanFails nullText width last done.count rows f) ∨
    ∃ texts, scanAll nullText width last rows done
        = .ok ⟨done.count + rows.length, texts.reverse ++ done.rows⟩ ∧
      last = none ∧ Displayed nullText width rows texts := by
  induction rows generalizing done with
  | nil =>
    cases last with
    | none => exact .inr ⟨[], rfl, rfl, List.Forall₂.nil⟩
    | some r => exact .inl ⟨_, rfl, .last rfl⟩
  | cons cells rest ih =>
    by_cases hw : cells.length = width
    · cases hd : displayRow nullText cells with
      | error f =>
        have hrow : scanRow nullText width done.count cells = .error (.fault f) := by
          simp only [scanRow, hw, hd, ne_eq, not_true, if_false]
        exact .inl ⟨_, by simp only [scanAll, hrow, scanError], .cell hw hd⟩
      | ok texts =>
        have hrow : scanRow nullText width done.count cells = .ok texts := by
          simp only [scanRow, hw, hd, ne_eq, not_true, if_false]
        simp only [scanAll, hrow]
        rcases ih ⟨done.count + 1, texts :: done.rows⟩ with ⟨f, hf, hfails⟩ | ⟨more, hok, hl, hm⟩
        · exact .inl ⟨f, hf, .later hw hd hfails⟩
        · refine .inr ⟨texts :: more, ?_, hl, List.Forall₂.cons ⟨hw, hd⟩ hm⟩
          rw [hok]
          simp only [List.length_cons, List.reverse_cons, List.append_assoc, List.singleton_append,
            Nat.add_assoc, Nat.add_comm 1]
    · have hrow : scanRow nullText width done.count cells = .error (.failure
          ⟨.scan, s!"Row {done.count} has {cells.length} values, expected {width}", none⟩) := by
        simp only [scanRow, hw, ne_eq, not_false_iff, if_true, failure]
      exact .inl ⟨_, by simp only [scanAll, hrow, scanError], .width hw⟩

/-- Reading a cursor under given names fails as the scan does, or turns the rows that it displays. -/
theorem materialize_cases (cursor : Cursor σ) (nullText name : String) (names : List String)
    (s : Session σ) :
    (∃ f, ((materialize cursor nullText name (some names)).outcome s).1 = .error (.failure f) ∧
      ScanFails nullText names.length (cursor.rows.deliver s.outside).2 0
        (cursor.rows.deliver s.outside).1 f) ∨
    ∃ texts, ((materialize cursor nullText name (some names)).outcome s).1
        = .ok (Frame.ofRows name names texts) ∧
      (cursor.rows.deliver s.outside).2 = none ∧
      Displayed nullText names.length (cursor.rows.deliver s.outside).1 texts := by
  have hscan := scanRows_result nullText names.length cursor.rows ⟨0, []⟩ s
  have hrun : ((materialize cursor nullText name (some names)).outcome s).1 =
      ((scanRows nullText names.length cursor.rows ⟨0, []⟩).outcome s).1.map
        fun scanned => Frame.ofRows name names scanned.rows.reverse := by
    simp only [materialize, pure_bind, Act.outcome_bind]
    rcases (scanRows nullText names.length cursor.rows ⟨0, []⟩).outcome s with ⟨r | scanned, s'⟩ <;> rfl
  rw [hrun, hscan]
  rcases scanAll_result nullText names.length (cursor.rows.deliver s.outside).2
    (cursor.rows.deliver s.outside).1 ⟨0, []⟩ with ⟨f, hf, hfails⟩ | ⟨texts, hok, hlast, hd⟩
  · exact .inl ⟨f, by rw [hf, Except.map], hfails⟩
  · exact .inr ⟨texts, by rw [hok, List.append_nil, Except.map, List.reverse_reverse], hlast, hd⟩

/-! The frame of displayed rows. -/

/-- A frame that shows all cells of all rows under the names of their columns. -/
structure Frame.Shows (nullText : String) (columnNames : List String) (rows : List (List Cell))
    (frame : Frame) : Prop where
  name : frame.name = defaultFrameName
  names : frame.columns.map (·.name) = columnNames
  width : ∀ cells ∈ rows, cells.length = columnNames.length
  height : ∀ column ∈ frame.columns, column.values.length = rows.length
  cell : ∀ {i j : Nat} {cells : List Cell} {cell : Cell}, rows[i]? = some cells →
    cells[j]? = some cell → ∃ column text, frame.columns[j]? = some column ∧
      column.values[i]? = some text ∧ cell.display nullText = .ok text

theorem columnValues_cons (width : Nat) (row : List String) (rows : List (List String)) :
    columnValues width (row :: rows) = List.zipWith (· :: ·) row (columnValues width rows) := rfl

theorem length_columnValues {width : Nat} {rows : List (List String)}
    (h : ∀ row ∈ rows, row.length = width) : (columnValues width rows).length = width := by
  induction rows with
  | nil => simp [columnValues]
  | cons row rows ih =>
    rw [columnValues_cons, List.length_zipWith, h row List.mem_cons_self,
      ih fun r hr => h r (List.mem_cons_of_mem _ hr), Nat.min_self]

theorem length_of_mem_columnValues {width : Nat} {rows : List (List String)} {column : List String}
    (h : column ∈ columnValues width rows) : column.length = rows.length := by
  induction rows generalizing column with
  | nil => simp [List.eq_of_mem_replicate h]
  | cons row rows ih =>
    obtain ⟨i, hi, rfl⟩ := List.mem_iff_getElem.mp h
    have hc : i < (columnValues width rows).length := by
      simp only [columnValues_cons, List.length_zipWith] at hi
      omega
    simp only [columnValues_cons, List.getElem_zipWith, List.length_cons]
    rw [ih (List.getElem_mem hc)]

/-- The columns hold what the rows hold. -/
theorem columnValues_getElem? {width : Nat} {rows : List (List String)}
    (h : ∀ row ∈ rows, row.length = width) {i j : Nat} {row : List String} {text : String}
    (hi : rows[i]? = some row) (hj : row[j]? = some text) :
    ∃ column, (columnValues width rows)[j]? = some column ∧ column[i]? = some text := by
  induction rows generalizing i with
  | nil => simp at hi
  | cons first rows ih =>
    have hrest : ∀ r ∈ rows, r.length = width := fun r hr => h r (List.mem_cons_of_mem _ hr)
    have hlen : (columnValues width rows).length = width := length_columnValues hrest
    have hfirst : first.length = width := h first List.mem_cons_self
    rw [columnValues_cons]
    cases i with
    | zero =>
      obtain rfl : first = row := by simpa using hi
      have hlt : j < (columnValues width rows).length := by
        have := (List.getElem?_eq_some_iff.mp hj).1
        omega
      refine ⟨text :: (columnValues width rows)[j], ?_, rfl⟩
      simp [List.getElem?_zipWith, hj, List.getElem?_eq_getElem hlt]
    | succ i =>
      obtain ⟨column, hc, ht⟩ := ih hrest (by simpa using hi)
      have hlt : j < first.length := by
        have := (List.getElem?_eq_some_iff.mp hc).1
        omega
      refine ⟨first[j] :: column, ?_, by simpa using ht⟩
      simp [List.getElem?_zipWith, hc, List.getElem?_eq_getElem hlt]

theorem displayRow_cons (nullText : String) (cell : Cell) (cells : List Cell) :
    displayRow nullText (cell :: cells) = (do
      let text ← cell.display nullText
      let texts ← displayRow nullText cells
      return text :: texts) := by
  simp only [displayRow, List.mapM_cons]

theorem displayRow_forall₂ {nullText : String} {cells : List Cell} {texts : List String}
    (h : displayRow nullText cells = .ok texts) :
    List.Forall₂ (fun cell text => cell.display nullText = .ok text) cells texts := by
  induction cells generalizing texts with
  | nil =>
    obtain rfl : texts = [] := by simpa [displayRow, pure, Except.pure] using h.symm
    exact .nil
  | cons cell cells ih =>
    rw [displayRow_cons] at h
    cases hc : cell.display nullText with
    | error f => simp [hc, bind, Except.bind] at h
    | ok text =>
      cases hr : displayRow nullText cells with
      | error f => simp [hc, hr, bind, Except.bind] at h
      | ok more =>
        simp only [hc, hr, bind, Except.bind, pure, Except.pure, Except.ok.injEq] at h
        exact h ▸ .cons hc (ih hr)

theorem Displayed.getElem {nullText : String} {width : Nat} {rows : List (List Cell)}
    {texts : List (List String)} (h : Displayed nullText width rows texts) {i : Nat}
    {cells : List Cell} (hi : rows[i]? = some cells) : ∃ row, texts[i]? = some row ∧
      cells.length = width ∧ displayRow nullText cells = .ok row := by
  obtain ⟨hlt, rfl⟩ := List.getElem?_eq_some_iff.mp hi
  have hlt' : i < texts.length := h.length_eq ▸ hlt
  exact ⟨texts[i], List.getElem?_eq_getElem hlt', (List.forall₂_iff_get.mp h).2 i hlt hlt'⟩

theorem Displayed.width {nullText : String} {width : Nat} {rows : List (List Cell)}
    {texts : List (List String)} (h : Displayed nullText width rows texts) :
    ∀ row ∈ texts, row.length = width := by
  intro row hrow
  obtain ⟨i, hi, rfl⟩ := List.mem_iff_getElem.mp hrow
  obtain ⟨hw, hd⟩ := (List.forall₂_iff_get.mp h).2 i (h.length_eq ▸ hi) hi
  exact (displayRow_forall₂ hd).length_eq ▸ hw

theorem Displayed.map_name {nullText : String} {names : List String} {rows : List (List Cell)}
    {texts : List (List String)} (h : Displayed nullText names.length rows texts) (name : String) :
    (Frame.ofRows name names texts).columns.map (·.name) = names := by
  have hcount : (columnValues names.length texts).length = names.length := length_columnValues h.width
  refine List.ext_getElem (by simp [Frame.ofRows, hcount]) fun i hi hn => ?_
  simp [Frame.ofRows]

theorem Displayed.shows {nullText : String} {names : List String} {rows : List (List Cell)}
    {texts : List (List String)} (h : Displayed nullText names.length rows texts) :
    (Frame.ofRows defaultFrameName names texts).Shows nullText names rows := by
  refine ⟨rfl, h.map_name defaultFrameName, ?_, ?_, ?_⟩
  · intro cells hcells
    obtain ⟨i, hi⟩ := List.mem_iff_getElem?.mp hcells
    obtain ⟨row, -, hw, -⟩ := h.getElem hi
    exact hw
  · intro column hcolumn
    obtain ⟨i, hi, rfl⟩ := List.mem_iff_getElem.mp hcolumn
    simp only [Frame.ofRows, List.getElem_zipWith, h.length_eq]
    exact length_of_mem_columnValues (List.getElem_mem _)
  · intro i j cells cell hi hj
    obtain ⟨row, hrow, hw, hd⟩ := h.getElem hi
    obtain ⟨hlt, rfl⟩ := List.getElem?_eq_some_iff.mp hj
    have hlt' : j < row.length := (displayRow_forall₂ hd).length_eq ▸ hlt
    obtain ⟨values, hv, ht⟩ :=
      columnValues_getElem? h.width hrow (List.getElem?_eq_getElem hlt')
    have hn : j < names.length := hw ▸ hlt
    refine ⟨⟨names[j], values⟩, row[j], ?_, ht,
      (List.forall₂_iff_get.mp (displayRow_forall₂ hd)).2 j hlt hlt'⟩
    simp [Frame.ofRows, List.getElem?_zipWith, hv, List.getElem?_eq_getElem hn]

end QueryGate
