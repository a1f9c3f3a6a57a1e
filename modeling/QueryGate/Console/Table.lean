import QueryGate.Console.Wrap
import QueryGate.Number.Fixed
/-! Tables with a title, a heavy line round the headers and light lines round the rows. A table that is
too wide for the console gives up width in its widest columns first. -/

namespace QueryGate

/-- One column: what stands above it and in it. Its cells either wrap or are shortened. -/
structure TableColumn where
  header : List Char
  cells : List (List Char)
  wraps : Bool

structure Table where
  title : List Char
  columns : List TableColumn

def consoleWidth : Nat := 80

/-- Characters that end a line when a text is measured. -/
def endsMeasuredLine (c : Char) : Bool :=
  c.toNat ∈ [0xa, 0x1c, 0x1d, 0x1e, 0x85, 0x2028, 0x2029]

/-- The width of the widest line of a text. -/
def measureText (widest current : Nat) : List Char → Nat
  | [] => max widest current
  | c :: rest =>
    if endsMeasuredLine c then measureText (max widest current) 0 rest
    else measureText widest (current + charWidth c) rest

/-- The blanks beside the text of a cell. -/
def cellPadding : Nat := 2

/-- The width that a column would have within a limit. -/
def TableColumn.naturalWidth (limit : Nat) (c : TableColumn) : Nat :=
  if limit < cellPadding + 1 then limit
  else min limit (((c.header :: c.cells).map fun cs => measureText 0 0 cs + cellPadding).foldl max 0)

def totalWidth (widths : List Nat) : Nat :=
  widths.foldl (· + ·) 0

/-- One column that may become narrower: whether it shares in the loss, how much of it, and its
width. -/
structure Shrinking where
  shares : Bool
  most : Nat
  width : Nat

/-- Takes a loss off the columns that share in it, in equal parts as far as they go. -/
def shareLoss (loss parties : Nat) : List Shrinking → List Nat
  | [] => []
  | s :: rest =>
    if s.shares && 0 < s.most && 0 < parties then
      let part := min s.most (roundedQuotient loss parties)
      (s.width - part) :: shareLoss (loss - part) (parties - 1) rest
    else s.width :: shareLoss loss parties rest

def parties (columns : List Shrinking) : Nat :=
  columns.countP fun s => s.shares && 0 < s.most

def shrinkAll (loss : Nat) (columns : List Shrinking) : List Nat :=
  shareLoss loss (parties columns) columns

/-- Narrows the widest columns that wrap down to the next widest, again and again, until the limit is
kept or nothing can be gained. -/
def narrowWidest (limit : Nat) (wraps : List Bool) : Nat → List Nat → List Nat
  | 0, widths => widths
  | fuel + 1, widths =>
    let loss := totalWidth widths - limit
    let wrapping := (widths.zip wraps).filter (·.2) |>.map (·.1)
    let widest := wrapping.foldl max 0
    let second := (wrapping.filter (· ≠ widest)).foldl max 0
    if loss = 0 || wrapping.isEmpty || widest = second then widths
    else
      let gain := min loss (widest - second)
      narrowWidest limit wraps fuel (shrinkAll loss ((widths.zip wraps).map fun (width, wraps) =>
        ⟨wraps && width = widest, gain, width⟩))

/-- The width of each column, padding included. -/
def Table.widths (t : Table) : List Nat :=
  let limit := consoleWidth - (t.columns.length + 1)
  let natural := t.columns.map fun c => max 1 (c.naturalWidth limit)
  if totalWidth natural ≤ limit then natural
  else
    let narrowed := narrowWidest limit (t.columns.map (·.wraps)) (totalWidth natural + 1) natural
    let final :=
      if totalWidth narrowed ≤ limit then narrowed
      else shrinkAll (totalWidth narrowed - limit) (narrowed.map fun width => ⟨true, width, width⟩)
    (t.columns.zip final).map fun (c, width) => c.naturalWidth width

/-- The lines of a cell with blanks beside them. -/
def cellLines (width : Nat) (wraps : Bool) (cs : List Char) : List (List Char) :=
  let layout : TextLayout :=
    { width := width - cellPadding, overflow := .ellipsis, alignment := .left, wrapped := wraps }
  (layout.lines cs).map fun line => setWidth width (' ' :: (line ++ [' ']))

/-- Fills the lines of a cell up to a height, below them or above. -/
def fillHeight (height width : Nat) (below : Bool) (lines : List (List Char)) : List (List Char) :=
  let blank := List.replicate (height - lines.length) (List.replicate width ' ')
  if below then lines ++ blank else blank ++ lines

/-- The lines of a row between borders. -/
def rowLines (border : Char) (below : Bool) (cells : List (Nat × List (List Char))) :
    List (List Char) :=
  let height := (cells.map (·.2.length)).foldl max 1
  let filled := cells.map fun (width, lines) => fillHeight height width below lines
  (List.range height).map fun i =>
    border :: ([border].intercalate (filled.map (·.getD i [])) ++ [border])

/-- A horizontal line. -/
def ruleLine (left fill cross right : Char) (widths : List Nat) : List Char :=
  left :: ([cross].intercalate (widths.map (List.replicate · fill)) ++ [right])

/-- The cells of one row. -/
def Table.row (t : Table) (widths : List Nat) (i : Nat) : List (Nat × List (List Char)) :=
  (t.columns.zip widths).map fun (c, width) => (width, cellLines width c.wraps (c.cells.getD i []))

def Table.height (t : Table) : Nat :=
  (t.columns.map (·.cells.length)).foldl max 0

def Table.headers (t : Table) (widths : List Nat) : List (Nat × List (List Char)) :=
  (t.columns.zip widths).map fun (c, width) => (width, cellLines width c.wraps c.header)

/-- The lines of a table. One without columns is a blank line. -/
def Table.lines (t : Table) : List (List Char) :=
  if t.columns.isEmpty then [[]]
  else
    let widths := t.widths
    let title : TextLayout :=
      { width := totalWidth widths + t.columns.length + 1, overflow := .fold, alignment := .centre }
    let body := (List.range t.height).flatMap fun i => rowLines '│' true (t.row widths i)
    let lines := title.lines t.title ++ ruleLine '┏' '━' '┳' '┓' widths
      :: rowLines '┃' false (t.headers widths) ++ ruleLine '┡' '━' '╇' '┩' widths
      :: body ++ [ruleLine '└' '─' '┴' '┘' widths]
    lines.map (cropWidth consoleWidth)

/-- Lines as the text that is written. -/
def printedLines (lines : List (List Char)) : String :=
  String.ofList (lines.flatMap fun line => line ++ ['\n'])

/-- A text that is not in a table: it is broken at the width of the console. -/
def messageLines (cs : List Char) : List (List Char) :=
  let layout : TextLayout := { width := consoleWidth, overflow := .fold, alignment := .asIs }
  layout.lines cs

end QueryGate
