import SourceAtlas.Number.Binary64
import SourceAtlas.Terminal.Wrap

/-! Tables drawn with lines, with a heavy header. -/

namespace SourceAtlas

/-- A column of a table. -/
structure Column where
  header : List Char
  side : Wrap.Justify := .left

/-- A table with a title. -/
structure Table where
  title : List Char
  columns : List Column
  rows : List (List (List Char))

namespace Table

/-- The blanks on both sides of a cell. -/
def padding : Nat := 2

/-- The width of the widest line of a cell. -/
def cellWidth (cell : List Char) : Nat :=
  -- A line end inside of a cell starts a new line there.
  ((splitAtChar '\n' cell).map cells).foldl max 0

/-- The cells of a column, its header first. -/
def columnCells (table : Table) (index : Nat) (column : Column) : List (List Char) :=
  -- A row that is too short has empty cells.
  column.header :: table.rows.map fun row => row.getD index []

/-- The width of a column with its blanks, up to a limit. -/
def columnWidth (limit : Nat) (cells : List (List Char)) : Nat :=
  -- Where only the blanks fit, nothing is left for the text.
  if limit ≤ padding then limit
  else min limit ((cells.map fun cell => cellWidth cell + padding).foldl max 0)

/-- Takes a total from values, as evenly as the numbers of shares left and a maximum allow. -/
def reduce (maximum : Nat) : Nat → Nat → List (Nat × Bool) → List Nat
  -- Columns that are not marked keep their width.
  | _, _, [] => []
  | total, shares, (value, false) :: rest => value :: reduce maximum total shares rest
  | total, shares, (value, true) :: rest =>
    -- The rest is shared out again after each column, so nothing is lost to rounding.
    let taken := min maximum (Binary64.divRoundEven total shares)
    (value - taken) :: reduce maximum (total - taken) (shares - 1) rest

/-- The sum of widths. -/
def total (widths : List Nat) : Nat :=
  widths.foldl (· + ·) 0

/-- Narrows the widest columns until the widths fit a limit or are all the same. -/
def collapse (limit : Nat) : Nat → List Nat → List Nat
  | 0, widths => widths
  | fuel + 1, widths =>
    -- The widest columns come down to the next widest, as far as that is needed.
    let excess := total widths - limit
    let widest := widths.foldl max 0
    let second := (widths.filter (· != widest)).foldl max 0
    if excess == 0 || widest == second then widths
    else
      let marked := widths.map fun width => (width, width == widest)
      collapse limit fuel (reduce (min excess (widest - second)) excess
        (widths.count widest) marked)

/-- The widths of the columns with their blanks, for a width of all of them. -/
def widths (table : Table) (limit : Nat) : List Nat :=
  -- The header counts like any other cell.
  let columns := table.columns.zipIdx.map fun (column, index) => table.columnCells index column
  let wanted := columns.map (columnWidth limit)
  if total wanted ≤ limit then wanted
  -- When narrowing the widest is not enough, all columns are narrowed.
  else
    let narrowed := collapse limit (total wanted) wanted
    let excess := total narrowed - limit
    let last := if excess == 0 then narrowed
      else reduce excess excess narrowed.length (narrowed.map fun width => (width, true))
    -- A narrowed column may need even less.
    (last.zip columns).map fun (width, cells) => columnWidth width cells

/-- A line of one character for each column, with marks between the columns and at the ends. -/
def ruler (left fill middle right : Char) (widths : List Nat) : String :=
  -- The marks at the ends may differ from those in between.
  String.ofList [left] ++
    joinWith (String.ofList [middle])
      (widths.map fun width => String.ofList (List.replicate width fill)) ++
    String.ofList [right]

/-- The lines of a cell with blanks on both sides. -/
def cellLines (width : Nat) (side : Wrap.Justify) (cell : List Char) : List (List Char) :=
  -- What is too long ends in an ellipsis.
  (Wrap.lines (width - padding) .ellipsis side cell).map fun line =>
    ' ' :: Wrap.padEnd (width - padding) line ++ [' ']

/-- The lines of a row, with a mark between the columns and at the ends; cells start at the
top, or end at the bottom. -/
def rowLines (mark : Char) (atBottom : Bool) (parts : List (Nat × Wrap.Justify × List Char)) :
    List String :=
  -- All cells of a row are as high as the highest.
  let blocks := parts.map fun (width, side, cell) => (width, cellLines width side cell)
  let height := (blocks.map fun block => block.2.length).foldl max 1
  let filled := blocks.map fun (width, lines) =>
    let missing := List.replicate (height - lines.length) (List.replicate width ' ')
    if atBottom then missing ++ lines else lines ++ missing
  (List.range height).map fun index =>
    let edge := String.ofList [mark]
    edge ++ joinWith edge (filled.map fun lines => String.ofList (lines.getD index [])) ++ edge

/-- The lines of a table on a terminal of a width. -/
def render (table : Table) (terminalWidth : Nat) : List String :=
  -- The borders are no part of the columns.
  let borders := table.columns.length + 1
  let widths := table.widths (terminalWidth - borders)
  let row := fun (mark : Char) (atBottom : Bool) (cells : List (List Char)) =>
    rowLines mark atBottom (widths.zip ((table.columns.map Column.side).zip cells))
  -- The title stands in the middle of the whole table.
  (Wrap.lines (total widths + borders) .fold .center table.title).map String.ofList ++
    [ruler '┏' '━' '┳' '┓' widths] ++ row '┃' true (table.columns.map Column.header) ++
    [ruler '┡' '━' '╇' '┩' widths] ++ table.rows.flatMap (row '│' false) ++
    [ruler '└' '─' '┴' '┘' widths]

end Table

end SourceAtlas
