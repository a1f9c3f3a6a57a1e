import QueryGate.Proofs.Console.Cells
import QueryGate.Proofs.Service.Delivery
/-! Reports. What stands in a table before it is laid out is known for each text, and so is which texts are kept. A
table with columns is stopped exactly if a tag in its title or in a header closes what is not open. -/

namespace QueryGate

/-- A tag of the text closes what is not open. -/
def hasStrayTag (text : String) : Bool :=
  !tagsMatch [] (textPieces text.toList)

def shownColumn (wraps : Bool) (header : String) (values : List String) : TableColumn :=
  ⟨shownMarkup header.toList, values.map fun value => shownCell value.toList, wraps⟩

def shownTable (title : String) (columns : List TableColumn) : Table :=
  if columns.isEmpty then ⟨[], []⟩ else ⟨shownMarkup title.toList, columns⟩

theorem showMarkup_shownUnless (text : String) :
    ShownUnless (hasStrayTag text = true) (shownMarkup text.toList) (showMarkup text.toList) :=
  ShownUnless.congr (showMarkup_shownAs text.toList) (by simp [hasStrayTag])

theorem mapM_eq_ok_map {α β : Type} {act : α → Except Fault β} {g : α → β} {l : List α}
    (h : ∀ a ∈ l, act a = .ok (g a)) : l.mapM act = .ok (l.map g) := by
  induction l with
  | nil => rfl
  | cons a l ih =>
    rw [List.mapM_cons, h a List.mem_cons_self, ih fun b hb => h b (List.mem_cons_of_mem a hb)]
    rfl

theorem tableColumn_shownUnless (header : String) (values : List String) (wraps : Bool) :
    ShownUnless (hasStrayTag header = true) (shownColumn wraps header values) (tableColumn header values wraps) := by
  unfold tableColumn
  refine (showMarkup_shownUnless header).bind_ok ?_
  rw [mapM_eq_ok_map fun value _ => showEscaped_eq value]
  rfl

theorem ShownUnless.mapM {α β : Type} {stops : α → Prop} {g : α → β} {act : α → Except Fault β}
    (h : ∀ a, ShownUnless (stops a) (g a) (act a)) (l : List α) :
    ShownUnless (∃ a ∈ l, stops a) (l.map g) (l.mapM act) := by
  induction l with
  | nil => exact .shown (by simp)
  | cons a l ih =>
    rw [List.mapM_cons, List.map_cons]
    exact ShownUnless.congr ((h a).bind (ih.bind_ok rfl)) (List.exists_mem_cons_iff stops a l).symm

/-- A title is shown above columns only. -/
theorem titledTable_shownUnless {stops : Prop} {shown : List TableColumn} {columns : Except Fault (List TableColumn)}
    (title : String) (h : ShownUnless stops shown columns) :
    ShownUnless (stops ∨ (shown ≠ [] ∧ hasStrayTag title = true)) (shownTable title shown)
      (titledTable title columns) := by
  unfold titledTable shownTable
  refine h.bind ?_
  cases shown with
  | nil => exact .shown (by simp)
  | cons =>
    refine ShownUnless.congr ((showMarkup_shownUnless title).bind_ok rfl) ?_
    simp

/-- All columns are as long as the first. -/
def Frame.Rectangular (f : Frame) : Prop :=
  ∀ c ∈ f.columns, c.values.length = f.rowCount

/-- Rows of display text make a frame whose columns are equally long, whatever their widths. -/
theorem Frame.rectangular_ofRows (name : String) (names : List String) (rows : List (List String)) :
    (Frame.ofRows name names rows).Rectangular := by
  have hlength : ∀ c ∈ (Frame.ofRows name names rows).columns, c.values.length = rows.length := by
    intro c hc
    obtain ⟨i, hi, rfl⟩ := List.mem_iff_getElem.mp hc
    simp only [Frame.ofRows, List.getElem_zipWith]
    exact length_of_mem_columnValues (List.getElem_mem _)
  intro c hc
  cases hcolumns : (Frame.ofRows name names rows).columns with
  | nil => simp [hcolumns] at hc
  | cons first others =>
    rw [hlength c hc, Frame.rowCount, hcolumns]
    exact (hlength first (hcolumns ▸ List.mem_cons_self)).symm

theorem mapM_inRows {f : Frame} (h : f.Rectangular) : f.columns.mapM (·.inRows f.rowCount) = .ok f.columns := by
  have hrows : ∀ c ∈ f.columns, c.inRows f.rowCount = .ok (id c) := by
    intro c hc
    have hlength := h c hc
    rw [FrameColumn.inRows, if_neg (by omega), List.take_of_length_le (by omega)]
    rfl
  rw [mapM_eq_ok_map hrows, List.map_id]

def Frame.shown (f : Frame) : Table :=
  shownTable (frameTitle f) (f.columns.map fun c => shownColumn true c.name c.values)

theorem frameReport_shownUnless {f : Frame} (h : f.Rectangular) :
    ShownUnless ((∃ c ∈ f.columns, hasStrayTag c.name = true) ∨ (f.columns ≠ [] ∧ hasStrayTag (frameTitle f) = true))
      (printedLines f.shown.lines) (frameReport f) := by
  have hcolumns := ShownUnless.mapM (fun c : FrameColumn => tableColumn_shownUnless c.name c.values true) f.columns
  have htable := titledTable_shownUnless (frameTitle f) hcolumns
  unfold frameReport
  rw [mapM_inRows h]
  refine ShownUnless.congr (htable.bind_ok rfl) ?_
  rw [ne_eq, List.map_eq_nil_iff]

def shownNames (title : String) (names : List String) : Table :=
  shownTable title [shownColumn false "Name" names]

theorem namesReport_shownUnless (title : String) (names : List String) :
    ShownUnless (hasStrayTag title = true) (printedLines (shownNames title names).lines) (namesReport title names) := by
  have hcolumns := ShownUnless.mapM (fun column : String × List String => tableColumn_shownUnless column.1 column.2 false)
    [("Name", names)]
  have hname : hasStrayTag "Name" = false := by decide
  unfold namesReport
  refine ShownUnless.congr ((titledTable_shownUnless title hcolumns).bind_ok rfl) ?_
  simp [hname]

/-- A frame and a list of names are printed unless a tag in a header, or in the title above columns, closes what is not
open. A header is kept if it has no tag and there is nothing else to read into it, a value or a name if it does not end in
one backslash and there is nothing to read into its pieces. -/
theorem reports_kept {f : Frame} (h : f.Rectangular) (title : String) (names : List String) :
    ShownUnless
        ((∃ c ∈ f.columns, hasStrayTag c.name = true) ∨ (f.columns ≠ [] ∧ hasStrayTag (frameTitle f) = true))
        (printedLines f.shown.lines) (frameReport f) ∧
      ShownUnless (hasStrayTag title = true) (printedLines (shownNames title names).lines) (namesReport title names) ∧
      (∀ header : List Char, shownMarkup header = header ↔ ¬HasTag header ∧ IsKept header) ∧
      ∀ value : List Char, shownCell value = value ↔
        ¬EndsInLoneBackslash value ∧ ∀ piece ∈ textPieces value, IsKept piece.text :=
  ⟨frameReport_shownUnless h, namesReport_shownUnless title names, fun _ => shownMarkup_eq_self_iff,
    fun _ => shownCell_eq_self_iff⟩

theorem reports_kept_bracketed :
    let f : Frame := ⟨"response", [⟨"a", ["[b]x", "k:v"]⟩, ⟨"n [1]", ["", "\\\\"]⟩]⟩
    f.Rectangular ∧ frameReport f = .ok (printedLines f.shown.lines) ∧
      namesReport "Tables in [s]" ["[t]"] = .ok (printedLines (shownNames "Tables in [s]" ["[t]"]).lines) ∧
      IsKept "n [1]".toList ∧ ¬EndsInLoneBackslash "\\\\".toList := by
  intro f
  have hrectangular : f.Rectangular := by simp [f, Frame.Rectangular, Frame.rowCount]
  obtain ⟨hframe, hnames, hheaders, hvalues⟩ := reports_kept hrectangular "Tables in [s]" ["[t]"]
  refine ⟨hrectangular, hframe.eq_ok (by decide), hnames.eq_ok (by decide), ?_, ?_⟩
  · exact ((hheaders _).mp (by decide)).2
  · exact ((hvalues _).mp (by decide)).1

/-- A header loses a tag or stops the report, and a value loses a name between colons or a backslash, or gains one. -/
theorem reports_altered :
    (∃ f, frameReport ⟨"response", [⟨"x[/b]", ["v"]⟩]⟩ = .error f) ∧
      tableColumn "[b]x" [":aquarius:", "a\\[b", "a\\"] true =
        .ok ⟨"x".toList, ["♒".toList, "a[b".toList, "a\\\\".toList], true⟩ := by
  refine ⟨⟨_, rfl⟩, ?_⟩
  have hheader : showMarkup "[b]x".toList = .ok "x".toList := by decide
  have hpicture : showEscaped ":aquarius:" = .ok "♒".toList := by decide +kernel
  have hbracket : showEscaped "a\\[b" = .ok "a[b".toList := by decide
  have hlast : showEscaped "a\\" = .ok "a\\\\".toList := by decide
  simp only [tableColumn, List.mapM_cons, List.mapM_nil, hheader, hpicture, hbracket, hlast]
  rfl

end QueryGate
