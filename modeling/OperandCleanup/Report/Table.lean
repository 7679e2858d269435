import OperandCleanup.Number.Binary64
import OperandCleanup.Report.Console

/-!
# Tables on the console

A table has a title, columns with headers, and rows of cells. Every cell is padded by a blank on
both sides, and a column is as wide as its widest cell. Where the columns are too wide for the
console, the widest are narrowed first. The header stands in a heavy frame, the rows in a light one,
and the title is centred over the frame.
-/

namespace OperandCleanup.Report

/-- A column: its header, and whether its cells are set to the right. -/
structure Column where
  header : String
  toRight : Bool := false
deriving DecidableEq, Repr, Inhabited

/-- A table. Each row has a cell for every column. -/
structure Table where
  title : String
  columns : List Column
  rows : List (List String)
deriving DecidableEq, Repr, Inhabited

/-- The strokes of a frame's line: its left end, what runs along, a crossing, its right end. -/
structure Strokes where
  left : String
  along : String
  crossing : String
  right : String

/-- A text repeated. -/
def repeated (count : Nat) (s : String) : String :=
  String.ofList (List.replicate count s.toList).flatten

/-! ## Widths -/

/-- The sum of widths. -/
def totalWidth : List Nat → Nat
  | [] => 0
  | width :: rest => width + totalWidth rest

/-- Widths of which those equal to the widest share in a loss, each by at most the given number. So
many columns have to share in what is left of the loss. -/
def sharedLoss (widest most : Nat) : (loss sharers : Nat) → List Nat → List Nat
  | _, _, [] => []
  | loss, sharers, width :: rest =>
    if width = widest then
      let share := min most (Binary64.roundedQuotient loss sharers)
      (width - share) :: sharedLoss widest most (loss - share) (sharers - 1) rest
    else width :: sharedLoss widest most loss sharers rest

/-- Widths narrowed for a room by a number of steps. A step narrows the widest columns at most to
the width of the next widest. -/
def narrowedBy : Nat → Nat → List Nat → List Nat
  | 0, _, widths => widths
  | steps + 1, room, widths =>
    let excess := totalWidth widths - room
    if excess = 0 then widths
    else
      let widest := widths.foldl max 0
      let next := (widths.filter (· != widest)).foldl max 0
      narrowedBy steps room
        (sharedLoss widest (min excess (widest - next)) excess (widths.count widest) widths)

/-- Widths narrowed until they fit into a room. Every step takes away one cell at least. -/
def narrowed (room : Nat) (widths : List Nat) : List Nat :=
  narrowedBy (totalWidth widths - room) room widths

/-- Widths that fit are not narrowed. -/
theorem narrowed_eq_self {room : Nat} {widths : List Nat} (h : totalWidth widths ≤ room) :
    narrowed room widths = widths := by
  simp [narrowed, Nat.sub_eq_zero_of_le h, narrowedBy]

/-- The number of blanks beside the content of a cell, on both sides together. -/
def padding : Nat := 2

namespace Table

/-- The number of cells of the terminal that the widest line of a cell takes. Tabs take none. -/
def cellWidth (cell : String) : Nat :=
  ((Text.lines (String.ofList (printable cell))).map Text.width).foldl max 0

/-- The widths of columns that hold these cells as well. -/
def widen : List Nat → List String → List Nat
  | width :: widths, cell :: cells => max width (cellWidth cell) :: widen widths cells
  | widths, [] => widths
  | [], _ => []

/-- The width that the cells of every column ask for. -/
def contentWidths (table : Table) : List Nat :=
  table.rows.foldl widen (table.columns.map fun column => cellWidth column.header)

/-- The width of every column with its padding, in a room for all of them. -/
def widths (room : Nat) (table : Table) : List Nat :=
  narrowed room (table.contentWidths.map fun width => min room (width + padding))

/-! ## Lines -/

/-- A line of the frame. -/
def rule (strokes : Strokes) (widths : List Nat) : String :=
  strokes.left ++
    Text.joined strokes.crossing (widths.map fun width => repeated width strokes.along) ++
    strokes.right

/-- A line of a cell between its padding. -/
def padded (width : Nat) (toRight : Bool) (s : String) : String :=
  let blanks := repeated (width - padding - Text.width s) " "
  " " ++ (if toRight then blanks ++ s else s ++ blanks) ++ " "

/-- One line of a row between upright strokes. -/
def rowLine (upright : String) (widths : List Nat) (columns : List Column) (cells : List String) :
    String :=
  let fields := (widths.zip (columns.zip cells)).map fun (width, column, cell) =>
    padded width column.toRight cell
  upright ++ Text.joined upright fields ++ upright

/-- The lines of a row, as many as its highest cell has. -/
def rowLines (upright : String) (widths : List Nat) (columns : List Column) (cells : List String) :
    List String :=
  let contents := (widths.zip (columns.zip cells)).map fun (width, column, cell) =>
    Fitting.cell.lines column.toRight (width - padding) cell
  let height := (contents.map List.length).foldl max 1
  (List.range height).map fun line =>
    rowLine upright widths columns (contents.map fun lines => lines[line]?.getD "")

/-- A text centred over a width; of an odd rest the smaller half is on the left. -/
def centred (width : Nat) (s : String) : String :=
  repeated ((width - Text.width s) / 2) " " ++ s

/-- The lines of a table on a console. The upright strokes need a cell each. -/
def lines (console : Nat) (table : Table) : List String :=
  let widths := table.widths (console - (table.columns.length + 1))
  let headers := table.columns.map (·.header)
  let top := rule ⟨"┏", "━", "┳", "┓"⟩ widths
  [centred (Text.width top) table.title, top] ++
    rowLines "┃" widths table.columns headers ++
    [rule ⟨"┡", "━", "╇", "┩"⟩ widths] ++
    table.rows.flatMap (rowLines "│" widths table.columns) ++
    [rule ⟨"└", "─", "┴", "┘"⟩ widths]

end Table

end OperandCleanup.Report
