import Mathlib.Data.List.Forall2
import OperandCleanup.Proofs.Report.Console
import OperandCleanup.Report.Table

/-!
# Tables on a wide console

A column is at least as wide as each of its cells, whichever row that is in. So on a console that is
as wide as the frame no column is narrowed and no cell is divided: every row is one line, all lines
of the frame are equally wide, and the cells of a row can be read between its upright strokes.
-/

namespace OperandCleanup

namespace Text

/-- What holds of a separator and of some texts holds of the texts with the separator between. -/
theorem forall_mem_joined {p : Char → Prop} {separator : String} {texts : List String}
    (hseparator : ∀ c ∈ separator.toList, p c) (h : ∀ s ∈ texts, ∀ c ∈ s.toList, p c) :
    ∀ c ∈ (joined separator texts).toList, p c := by
  induction texts with
  | nil => exact List.forall_mem_nil _
  | cons s rest ih =>
    obtain ⟨hs, hrest⟩ := List.forall_mem_cons.mp h
    cases rest with
    | nil => exact hs
    | cons other others =>
      rw [joined_cons _ _ (List.cons_ne_nil other others), String.toList_append,
        String.toList_append, List.forall_mem_append, List.forall_mem_append]
      exact ⟨⟨hs, hseparator⟩, ih hrest⟩

/-- An empty text at the end puts the separator there. -/
theorem joined_append_empty (separator : String) {texts : List String} (h : texts ≠ []) :
    joined separator (texts ++ [""]) = joined separator texts ++ separator := by
  induction texts with
  | nil => exact absurd rfl h
  | cons s rest ih =>
    cases rest with
    | nil => simp [joined]
    | cons other others =>
      rw [List.cons_append, joined_cons _ _ (List.append_ne_nil_of_right_ne_nil _ (by simp)),
        ih (List.cons_ne_nil _ _), joined_cons _ _ (List.cons_ne_nil other others)]
      simp only [String.append_assoc]

end Text

namespace Report

/-- The length of texts with a separator of one character between them. -/
theorem length_joined {separator : String} (hseparator : separator.toList.length = 1)
    {texts : List String} (h : texts ≠ []) :
    (Text.joined separator texts).toList.length + 1 =
      totalWidth (texts.map (·.toList.length)) + texts.length := by
  induction texts with
  | nil => exact absurd rfl h
  | cons s rest ih =>
    cases rest with
    | nil => simp [Text.joined, totalWidth]
    | cons other others =>
      have hrest := ih (List.cons_ne_nil other others)
      rw [Text.joined_cons _ _ (List.cons_ne_nil other others), String.toList_append,
        String.toList_append, List.length_append, List.length_append, hseparator, List.map_cons,
        totalWidth, List.length_cons]
      omega

namespace Table

/-! ## Strokes -/

/-- Whether a text is one character of one cell that is no blank and ends no line. -/
def isStroke (s : String) : Bool :=
  match s.toList with
  | [c] => decide (Text.IsSingle c) && !Text.endsLine c && !Text.isBlank c
  | _ => false

theorem exists_of_isStroke {s : String} (h : isStroke s = true) :
    ∃ c, s.toList = [c] ∧ Text.IsSingle c ∧ Text.endsLine c = false ∧ Text.isBlank c = false := by
  rw [isStroke] at h
  split at h
  case h_1 c hc =>
    simp only [Bool.and_eq_true, decide_eq_true_eq, Bool.not_eq_true'] at h
    exact ⟨c, hc, h.1.1, h.1.2, h.2⟩
  case h_2 => cases h

/-- Whether a character can stand in the frame of a table or in a cell. -/
def IsShown (c : Char) : Prop := Text.IsSingle c ∧ Text.endsLine c = false

theorem isShown_of_isPlain {c : Char} (h : Json.IsPlain c) : IsShown c :=
  ⟨h.isSingle, h.endsLine_eq_false⟩

theorem isShown_of_isStroke {s : String} (h : isStroke s = true) : ∀ c ∈ s.toList, IsShown c := by
  obtain ⟨c, hc, hsingle, hend, -⟩ := exists_of_isStroke h
  rw [hc, List.forall_mem_singleton]
  exact ⟨hsingle, hend⟩

/-- What a line of the frame or of a row is like: as wide as it is to be, on one line, and with no
blank at its end. -/
structure IsFramed (width : Nat) (line : String) : Prop where
  width : Text.width line = width
  oneLine : Text.IsOneLine line.toList
  last : ∀ c ∈ line.toList.getLast?, Text.isBlank c = false

/-- A framed line is read as it is printed. -/
theorem IsFramed.trimEnd_eq {width : Nat} {line : String} (h : IsFramed width line) :
    Text.trimEnd line = line := by
  rw [Text.trimEnd, Text.trimmedRight_eq_self h.last, String.ofList_toList]

/-- Fields between strokes are framed. -/
theorem isFramed_joined {left crossing right : String} (fields : List String)
    (hleft : isStroke left = true) (hcrossing : isStroke crossing = true)
    (hright : isStroke right = true) (hne : fields ≠ [])
    (h : ∀ field ∈ fields, ∀ c ∈ field.toList, IsShown c) :
    IsFramed (totalWidth (fields.map (·.toList.length)) + (fields.length + 1))
      (left ++ Text.joined crossing fields ++ right) := by
  have hshown : ∀ c ∈ (left ++ Text.joined crossing fields ++ right).toList, IsShown c := by
    rw [String.toList_append, String.toList_append, List.forall_mem_append, List.forall_mem_append]
    exact ⟨⟨isShown_of_isStroke hleft, Text.forall_mem_joined (isShown_of_isStroke hcrossing) h⟩,
      isShown_of_isStroke hright⟩
  obtain ⟨first, hfirst, -⟩ := exists_of_isStroke hleft
  obtain ⟨stroke, hstroke, -⟩ := exists_of_isStroke hcrossing
  obtain ⟨last, hlast, -, -, hblank⟩ := exists_of_isStroke hright
  refine ⟨?_, fun c hc => (hshown c hc).2, ?_⟩
  · have hlength := length_joined (by rw [hstroke]; rfl) hne
    rw [Text.width, Text.rowWidth_eq_length fun c hc => (hshown c hc).1, String.toList_append,
      String.toList_append, List.length_append, List.length_append, hfirst, hlast,
      List.length_singleton, List.length_singleton]
    omega
  · rw [String.toList_append, hlast, List.getLast?_concat]
    rintro c ⟨⟩
    exact hblank

/-- A text of a character repeated. -/
theorem toList_repeated {s : String} {c : Char} (h : s.toList = [c]) (count : Nat) :
    (repeated count s).toList = List.replicate count c := by
  rw [repeated, String.toList_ofList, h, List.flatten_replicate_singleton]

/-- A line of the frame is framed, whatever the columns are that it runs along. -/
theorem isFramed_rule {strokes : Strokes} (hleft : isStroke strokes.left = true)
    (halong : isStroke strokes.along = true) (hcrossing : isStroke strokes.crossing = true)
    (hright : isStroke strokes.right = true) {widths : List Nat} (hne : widths ≠ []) :
    IsFramed (totalWidth widths + (widths.length + 1)) (rule strokes widths) := by
  obtain ⟨c, hc, hsingle, hend, -⟩ := exists_of_isStroke halong
  have hlengths : (widths.map fun width => repeated width strokes.along).map (·.toList.length) =
      widths := by
    rw [List.map_map]
    refine (List.map_congr_left fun width _ => ?_).trans (List.map_id widths)
    simp [toList_repeated hc]
  have hshown : ∀ field ∈ widths.map fun width => repeated width strokes.along,
      ∀ d ∈ field.toList, IsShown d := by
    intro field hfield d hd
    obtain ⟨width, -, rfl⟩ := List.mem_map.mp hfield
    rw [toList_repeated hc] at hd
    rw [List.eq_of_mem_replicate hd]
    exact ⟨hsingle, hend⟩
  have hframed := isFramed_joined _ hleft hcrossing hright (by simpa using hne) hshown
  rwa [hlengths, List.length_map] at hframed

/-- A text that can stand in a cell is on one line where it is centred. -/
theorem isOneLine_centred {s : String} (h : IsCell s) (width : Nat) :
    Text.IsOneLine (centred width s).toList := by
  have hblanks : (repeated ((width - Text.width s) / 2) " ").toList =
      List.replicate ((width - Text.width s) / 2) ' ' := toList_repeated rfl _
  rw [centred, String.toList_append, hblanks]
  refine List.forall_mem_append.mpr ⟨fun c hc => ?_, h.isOneLine⟩
  rw [List.eq_of_mem_replicate hc]
  rfl

/-! ## Rows -/

/-- Whether a text has its room in a column of a width, with the padding. -/
def FitsColumn (cell : String) (width : Nat) : Prop :=
  IsCell cell ∧ cell.toList.length + padding ≤ width

/-- A cell between its padding is the cell between blanks, as many as fill the column. -/
theorem toList_padded {width : Nat} (toRight : Bool) {cell : String} (h : FitsColumn cell width) :
    ∃ before after, (padded width toRight cell).toList =
        List.replicate before ' ' ++ cell.toList ++ List.replicate after ' ' ∧
      before + cell.toList.length + after = width := by
  obtain ⟨hcell, hfits⟩ := h
  have hblanks (count : Nat) : (repeated count " ").toList = List.replicate count ' ' :=
    toList_repeated rfl count
  rw [padding] at hfits
  rw [padded, hcell.width_eq_length]
  cases toRight with
  | true =>
    refine ⟨width - padding - cell.toList.length + 1, 1, ?_, by rw [padding]; omega⟩
    simp only [if_true, String.toList_append, hblanks, List.replicate_succ]
    simp
  | false =>
    refine ⟨1, width - padding - cell.toList.length + 1, ?_, by rw [padding]; omega⟩
    simp only [Bool.false_eq_true, if_false, String.toList_append, hblanks, List.replicate_succ']
    simp

/-- The fields of a row: its cells between their padding. -/
def fields (widths : List Nat) (columns : List Column) (cells : List String) : List String :=
  (widths.zip (columns.zip cells)).map fun entry => padded entry.1 entry.2.1.toRight entry.2.2

theorem rowLine_eq (upright : String) (widths : List Nat) (columns : List Column)
    (cells : List String) :
    rowLine upright widths columns cells =
      upright ++ Text.joined upright (fields widths columns cells) ++ upright := rfl

/-- What the fields of a row are like: as wide as their columns, of printable characters, and the
cells, but for the blanks around them. -/
structure AreFields (widths : List Nat) (cells fields : List String) : Prop where
  lengths : fields.map (·.toList.length) = widths
  plain : ∀ field ∈ fields, ∀ c ∈ field.toList, Json.IsPlain c
  cells : fields.map Text.trim = cells

theorem areFields_fields {widths : List Nat} {columns : List Column} {cells : List String}
    (h : List.Forall₂ FitsColumn cells widths) (hcolumns : columns.length = cells.length) :
    AreFields widths cells (fields widths columns cells) := by
  induction h generalizing columns with
  | nil =>
    obtain rfl := List.length_eq_zero_iff.mp hcolumns
    exact ⟨rfl, List.forall_mem_nil _, rfl⟩
  | cons hfirst _ ih =>
    obtain ⟨column, columns, rfl⟩ := List.exists_cons_of_length_eq_add_one hcolumns
    obtain ⟨hlengths, hplain, hcells⟩ := ih (Nat.succ.inj hcolumns)
    obtain ⟨before, after, hpadded, hlength⟩ := toList_padded column.toRight hfirst
    have hblank {p : Char → Prop} (hp : p ' ') (count : Nat) :
        ∀ c ∈ List.replicate count ' ', p c := fun c hc => by
      rw [List.eq_of_mem_replicate hc]
      exact hp
    refine ⟨congrArg₂ List.cons ?_ hlengths, List.forall_mem_cons.mpr ⟨?_, hplain⟩,
      congrArg₂ List.cons ?_ hcells⟩
    · simpa [hpadded, Nat.add_assoc] using hlength
    · rw [hpadded, List.forall_mem_append, List.forall_mem_append]
      exact ⟨⟨hblank (by decide) before, hfirst.1.plain⟩, hblank (by decide) after⟩
    · have htrim := hfirst.1.trimmed.trim_append (hblank (by decide) before)
        (hblank (by decide) after)
      rwa [← hpadded, String.ofList_toList, String.ofList_toList] at htrim

/-- The cells of a row that has its room are one line each. -/
theorem cell_lines_eq {widths : List Nat} {columns : List Column} {cells : List String}
    (h : List.Forall₂ FitsColumn cells widths) (hcolumns : columns.length = cells.length) :
    ((widths.zip (columns.zip cells)).map fun entry =>
      Fitting.cell.lines entry.2.1.toRight (entry.1 - padding) entry.2.2) =
        cells.map fun cell => [cell] := by
  induction h generalizing columns with
  | nil => rfl
  | cons hfirst _ ih =>
    obtain ⟨column, columns, rfl⟩ := List.exists_cons_of_length_eq_add_one hcolumns
    exact congrArg₂ List.cons (hfirst.1.lines_eq column.toRight (Nat.le_sub_of_add_le hfirst.2))
      (ih (Nat.succ.inj hcolumns))

/-- The lines of a row from the lines of its cells. -/
theorem rowLines_of_eq {upright : String} {widths : List Nat} {columns : List Column}
    {cells : List String} {contents : List (List String)}
    (h : ((widths.zip (columns.zip cells)).map fun entry =>
      Fitting.cell.lines entry.2.1.toRight (entry.1 - padding) entry.2.2) = contents) :
    rowLines upright widths columns cells =
      (List.range ((contents.map List.length).foldl max 1)).map fun line =>
        rowLine upright widths columns (contents.map fun lines => lines[line]?.getD "") := by
  rw [← h]
  rfl

/-- A row that has its room is one line. -/
theorem rowLines_eq (upright : String) {widths : List Nat} {columns : List Column}
    {cells : List String} (h : List.Forall₂ FitsColumn cells widths)
    (hcolumns : columns.length = cells.length) :
    rowLines upright widths columns cells = [rowLine upright widths columns cells] := by
  have hheight : ((cells.map fun cell => [cell]).map List.length).foldl max 1 = 1 := by
    clear h hcolumns
    induction cells with
    | nil => rfl
    | cons cell rest ih => exact ih
  have hfirst : ((cells.map fun cell => [cell]).map fun lines => lines[0]?.getD "") = cells := by
    rw [List.map_map]
    exact List.map_id cells
  rw [rowLines_of_eq (cell_lines_eq h hcolumns), hheight, List.range_one, List.map_singleton,
    hfirst]

/-- The cells that are read between the upright strokes of a row. -/
def cellsOf (line : String) : List String :=
  (Text.pieces '│' line.toList).tail.dropLast.map fun piece => Text.trim (String.ofList piece)

/-- The cells of a row can be read between its strokes. -/
theorem cellsOf_rowLine {widths : List Nat} {columns : List Column} {cells : List String}
    (h : AreFields widths cells (fields widths columns cells)) (hne : widths ≠ []) :
    cellsOf (rowLine "│" widths columns cells) = cells := by
  generalize hfields : fields widths columns cells = fields at h
  have hne' : fields ≠ [] := by
    rintro rfl
    exact hne h.lengths.symm
  have hline : rowLine "│" widths columns cells =
      Text.joined (String.singleton '│') ("" :: (fields ++ [""])) := by
    rw [rowLine_eq, hfields, Text.joined_cons _ _ (List.append_ne_nil_of_left_ne_nil hne' _),
      Text.joined_append_empty _ hne', String.empty_append]
    simp only [String.append_assoc]
    rfl
  have hstroke : ∀ s ∈ "" :: (fields ++ [""]), '│' ∉ s.toList := by
    have hempty : '│' ∉ "".toList := List.not_mem_nil
    have hfield : ∀ field ∈ fields, '│' ∉ field.toList := fun field hfield hmem =>
      absurd (h.plain field hfield _ hmem) (by decide)
    exact List.forall_mem_cons.mpr ⟨hempty, List.forall_mem_append.mpr
      ⟨hfield, List.forall_mem_singleton.mpr hempty⟩⟩
  have hcells (pieces : List (List Char)) :
      (pieces.tail.dropLast.map fun piece => Text.trim (String.ofList piece)) =
        (pieces.map String.ofList).tail.dropLast.map Text.trim := by
    rw [← List.map_tail, ← List.map_dropLast, List.map_map]
    rfl
  rw [cellsOf, hcells, hline, Text.pieces_joined (List.cons_ne_nil _ _) hstroke, List.tail_cons,
    List.dropLast_concat, h.cells]

/-! ## Widths of columns -/

/-- Whether a cell takes no more than a width. -/
def FitsWidth (cell : String) (width : Nat) : Prop := cellWidth cell ≤ width

/-- A text that can stand in a cell takes as many cells of the terminal as it has characters. -/
theorem cellWidth_eq_length {s : String} (h : IsCell s) : cellWidth s = s.toList.length := by
  have hprintable : printable s = s.toList :=
    List.filter_eq_self.mpr fun c hc => by simp [(h.plain c hc).isPrinted.2]
  rw [cellWidth, hprintable, String.ofList_toList, Text.lines]
  cases hlast : s.toList.getLast? with
  | none =>
    rw [List.getLast?_eq_none_iff.mp hlast]
    rfl
  | some last =>
    have hfeed : last ≠ '\n' := by
      rintro rfl
      exact h.isOneLine.not_mem (List.mem_of_mem_getLast? hlast)
    have hends : ∀ c ∈ s.toList, Text.endsLine c = true → c = '\n' := fun c hc hend =>
      absurd hend (by simp [h.isOneLine c hc])
    rw [Text.lineLists_eq_pieces hends hlast hfeed, Text.pieces_eq_singleton h.isOneLine.not_mem,
      List.map_singleton, List.map_singleton, String.ofList_toList, h.width_eq_length]
    exact Nat.zero_max _

/-- Widening makes no column narrower. -/
theorem fits_widen_of_fits {widths : List Nat} {cells more : List String}
    (h : List.Forall₂ FitsWidth cells widths) :
    List.Forall₂ FitsWidth cells (widen widths more) := by
  induction h generalizing more with
  | nil => cases more <;> exact .nil
  | cons hfirst hrest ih =>
    cases more with
    | nil => exact .cons hfirst hrest
    | cons cell more => exact .cons (hfirst.trans (Nat.le_max_left _ _)) ih

/-- Columns that are widened for cells hold them. -/
theorem fits_widen {widths : List Nat} {cells : List String} (h : cells.length = widths.length) :
    List.Forall₂ FitsWidth cells (widen widths cells) := by
  induction widths generalizing cells with
  | nil =>
    obtain rfl := List.length_eq_zero_iff.mp h
    exact .nil
  | cons width widths ih =>
    obtain ⟨cell, cells, rfl⟩ := List.exists_cons_of_length_eq_add_one h
    exact .cons (Nat.le_max_right _ _) (ih (Nat.succ.inj h))

@[simp] theorem length_widen (widths : List Nat) (cells : List String) :
    (widen widths cells).length = widths.length := by
  induction widths generalizing cells with
  | nil => cases cells <;> rfl
  | cons width widths ih =>
    cases cells with
    | nil => rfl
    | cons cell cells => exact congrArg Nat.succ (ih cells)

@[simp] theorem length_foldl_widen (rows : List (List String)) (widths : List Nat) :
    (rows.foldl widen widths).length = widths.length := by
  induction rows generalizing widths with
  | nil => rfl
  | cons row rest ih => rw [List.foldl_cons, ih, length_widen]

/-- Columns that are widened for rows, one after the other, hold what they held before. -/
theorem fits_foldl_of_fits {rows : List (List String)} {widths : List Nat} {cells : List String}
    (h : List.Forall₂ FitsWidth cells widths) :
    List.Forall₂ FitsWidth cells (rows.foldl widen widths) := by
  induction rows generalizing widths with
  | nil => exact h
  | cons row rest ih => exact ih (fits_widen_of_fits h)

/-- Columns that are widened for rows, one after the other, hold all of them. -/
theorem fits_foldl {rows : List (List String)} {widths : List Nat}
    (h : ∀ row ∈ rows, row.length = widths.length) :
    ∀ row ∈ rows, List.Forall₂ FitsWidth row (rows.foldl widen widths) := by
  induction rows generalizing widths with
  | nil => exact List.forall_mem_nil _
  | cons row rest ih =>
    obtain ⟨hrow, hrest⟩ := List.forall_mem_cons.mp h
    rw [List.foldl_cons]
    exact List.forall_mem_cons.mpr ⟨fits_foldl_of_fits (fits_widen hrow),
      ih (by simpa using hrest)⟩

/-- Whether headers and cells can stand in a table as they are, a cell for every column. -/
structure IsPlain (table : Table) : Prop where
  title : IsCell table.title
  columns : table.columns ≠ []
  headers : ∀ column ∈ table.columns, IsCell column.header
  lengths : ∀ row ∈ table.rows, row.length = table.columns.length
  cells : ∀ row ∈ table.rows, ∀ cell ∈ row, IsCell cell

/-- The widths that the columns have with their padding where there is room for them. -/
def paddedWidths (table : Table) : List Nat := table.contentWidths.map (· + padding)

/-- The width of the frame of a table where there is room for it. -/
def frameWidth (table : Table) : Nat :=
  totalWidth table.paddedWidths + (table.columns.length + 1)

theorem le_totalWidth {widths : List Nat} : ∀ width ∈ widths, width ≤ totalWidth widths := by
  induction widths with
  | nil => exact List.forall_mem_nil _
  | cons width rest ih =>
    refine List.forall_mem_cons.mpr ⟨Nat.le_add_right _ _, fun other hother => ?_⟩
    exact (ih other hother).trans (Nat.le_add_left _ _)

variable {table : Table}

/-- On a console that is as wide as the frame, no column is narrowed. -/
theorem widths_eq_paddedWidths {console : Nat} (h : table.frameWidth ≤ console) :
    table.widths (console - (table.columns.length + 1)) = table.paddedWidths := by
  have htotal : totalWidth table.paddedWidths ≤ console - (table.columns.length + 1) :=
    Nat.le_sub_of_add_le h
  have hmin : (table.contentWidths.map fun width =>
      min (console - (table.columns.length + 1)) (width + padding)) = table.paddedWidths := by
    refine List.map_congr_left fun width hwidth => Nat.min_eq_right ?_
    exact (le_totalWidth _ (List.mem_map_of_mem hwidth)).trans htotal
  rw [widths, hmin, narrowed_eq_self htotal]

/-- Cells that fit into columns fit with their padding. -/
theorem fitsColumn_paddedWidths {cells : List String} (hcells : ∀ cell ∈ cells, IsCell cell)
    (h : List.Forall₂ FitsWidth cells table.contentWidths) :
    List.Forall₂ FitsColumn cells table.paddedWidths := by
  rw [paddedWidths, List.forall₂_map_right_iff]
  refine ((List.forall₂_and_left _ _).mpr ⟨hcells, h⟩).imp fun cell width hfits => ⟨hfits.1, ?_⟩
  rw [← cellWidth_eq_length hfits.1]
  exact Nat.add_le_add_right hfits.2 padding

theorem length_paddedWidths (table : Table) : table.paddedWidths.length = table.columns.length := by
  rw [paddedWidths, List.length_map, contentWidths, length_foldl_widen, List.length_map]

namespace IsPlain

variable (h : table.IsPlain)
include h

theorem paddedWidths_ne_nil : table.paddedWidths ≠ [] := fun hnil => h.columns <|
  List.length_eq_zero_iff.mp (by rw [← table.length_paddedWidths, hnil]; rfl)

/-- The headers fit into their columns. -/
theorem fits_headers :
    List.Forall₂ FitsColumn (table.columns.map (·.header)) table.paddedWidths := by
  refine fitsColumn_paddedWidths (List.forall_mem_map.mpr h.headers) (fits_foldl_of_fits ?_)
  rw [List.forall₂_map_left_iff, List.forall₂_map_right_iff, List.forall₂_same]
  exact fun _ _ => Nat.le_refl _

/-- The cells of every row fit into their columns. -/
theorem fits_row : ∀ row ∈ table.rows, List.Forall₂ FitsColumn row table.paddedWidths :=
  fun row hrow => fitsColumn_paddedWidths (h.cells row hrow)
    (fits_foldl (by simpa using h.lengths) row hrow)

/-- A row with its cells between strokes is framed. -/
theorem isFramed_rowLine {upright : String} (hupright : isStroke upright = true)
    {cells : List String} (hcells : List.Forall₂ FitsColumn cells table.paddedWidths)
    (hlength : table.columns.length = cells.length) :
    IsFramed table.frameWidth (rowLine upright table.paddedWidths table.columns cells) := by
  have hfields := areFields_fields hcells hlength
  have hne : fields table.paddedWidths table.columns cells ≠ [] := fun hnil =>
    h.paddedWidths_ne_nil (by rw [← hfields.lengths, hnil]; rfl)
  have hcount := congrArg List.length hfields.lengths
  rw [List.length_map, table.length_paddedWidths] at hcount
  have hframed := isFramed_joined _ hupright hupright hupright hne fun field hfield c hc =>
    isShown_of_isPlain (hfields.plain field hfield c hc)
  rwa [hfields.lengths, hcount] at hframed

/-- A line of the frame is as wide as the frame. -/
theorem isFramed_frame {strokes : Strokes}
    (hstrokes :
      [strokes.left, strokes.along, strokes.crossing, strokes.right].all isStroke = true) :
    IsFramed table.frameWidth (rule strokes table.paddedWidths) := by
  simp only [List.all_cons, List.all_nil, Bool.and_true, Bool.and_eq_true] at hstrokes
  obtain ⟨hleft, halong, hcrossing, hright⟩ := hstrokes
  have hframed := isFramed_rule hleft halong hcrossing hright h.paddedWidths_ne_nil
  rwa [table.length_paddedWidths] at hframed

/-- On a console that is as wide as the frame, every row is one line. -/
theorem lines_eq {console : Nat} (hroom : table.frameWidth ≤ console) :
    ∃ title, Text.IsOneLine title.toList ∧
      table.lines console = title :: ([rule ⟨"┏", "━", "┳", "┓"⟩ table.paddedWidths,
        rowLine "┃" table.paddedWidths table.columns (table.columns.map (·.header)),
        rule ⟨"┡", "━", "╇", "┩"⟩ table.paddedWidths] ++
          table.rows.map (rowLine "│" table.paddedWidths table.columns) ++
            [rule ⟨"└", "─", "┴", "┘"⟩ table.paddedWidths]) := by
  have hheaders : rowLines "┃" table.paddedWidths table.columns (table.columns.map (·.header)) =
      [rowLine "┃" table.paddedWidths table.columns (table.columns.map (·.header))] :=
    rowLines_eq "┃" h.fits_headers (List.length_map _).symm
  have hrows : table.rows.flatMap (rowLines "│" table.paddedWidths table.columns) =
      table.rows.map (rowLine "│" table.paddedWidths table.columns) := by
    rw [List.map_eq_flatMap]
    exact List.flatMap_congr fun row hrow =>
      rowLines_eq "│" (h.fits_row row hrow) (h.lengths row hrow).symm
  refine ⟨centred (Text.width (rule ⟨"┏", "━", "┳", "┓"⟩ table.paddedWidths)) table.title,
    isOneLine_centred h.title _, ?_⟩
  rw [lines, widths_eq_paddedWidths hroom, hheaders, hrows]
  rfl

/-- What is read of a table on a console that is as wide as its frame: a title, three lines for the
headers, a line for each row with its cells, and a last line of the frame. All lines but the title
are equally wide. -/
theorem readAgain_lines {console : Nat} (hroom : table.frameWidth ≤ console) :
    ∃ title top header heading bottom rows,
      readAgain (table.lines console) = title :: ([top, header, heading] ++ rows ++ [bottom]) ∧
        rows.map cellsOf = table.rows ∧
        ∀ line ∈ [top, header, heading] ++ rows ++ [bottom],
          Text.width line = table.frameWidth := by
  obtain ⟨title, htitle, hlines⟩ := h.lines_eq hroom
  generalize hframe : [rule ⟨"┏", "━", "┳", "┓"⟩ table.paddedWidths,
    rowLine "┃" table.paddedWidths table.columns (table.columns.map (·.header)),
    rule ⟨"┡", "━", "╇", "┩"⟩ table.paddedWidths] ++
      table.rows.map (rowLine "│" table.paddedWidths table.columns) ++
        [rule ⟨"└", "─", "┴", "┘"⟩ table.paddedWidths] = frame at hlines
  have hframed : ∀ line ∈ frame, IsFramed table.frameWidth line := by
    rw [← hframe, List.forall_mem_append, List.forall_mem_append, List.forall_mem_map]
    refine ⟨⟨?_, fun row hrow => ?_⟩, ?_⟩
    · rw [List.forall_mem_cons, List.forall_mem_cons, List.forall_mem_singleton]
      exact ⟨h.isFramed_frame (by decide +kernel),
        h.isFramed_rowLine (by decide +kernel) h.fits_headers (List.length_map _).symm,
        h.isFramed_frame (by decide +kernel)⟩
    · exact h.isFramed_rowLine (by decide +kernel) (h.fits_row row hrow) (h.lengths row hrow).symm
    · rw [List.forall_mem_singleton]
      exact h.isFramed_frame (by decide +kernel)
  have hread : readAgain (table.lines console) = Text.trimEnd title :: frame := by
    rw [readAgain_eq_map_trimEnd, hlines, List.map_cons,
      List.map_congr_left fun line hline => (hframed line hline).trimEnd_eq, List.map_id']
    rw [hlines]
    exact List.forall_mem_cons.mpr ⟨htitle, fun line hline => (hframed line hline).oneLine⟩
  refine ⟨_, _, _, _, _, _, hread.trans (congrArg _ hframe.symm), ?_, ?_⟩
  · rw [List.map_map]
    refine (List.map_congr_left fun row hrow => ?_).trans (List.map_id _)
    exact cellsOf_rowLine (areFields_fields (h.fits_row row hrow) (h.lengths row hrow).symm)
      h.paddedWidths_ne_nil
  · rw [hframe]
    exact fun line hline => (hframed line hline).width

end IsPlain

end Table

end Report

end OperandCleanup
