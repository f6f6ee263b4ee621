import ClassDiagram.Console.Markup
import ClassDiagram.Console.Wrap

/-!
# Tables

A table has a title above it, a head between heavy lines, and rows between light ones. A column is
as wide as its widest cell, with a space on either side. Titles and cells may hold style tags. The
cells are looked at before the title, column by column.
-/

namespace ClassDiagram

open Markup (MarkupError)

/-- A column: its heading, and whether its cells may be broken between words. -/
structure Column where
  heading : Text
  breaks : Bool
  deriving DecidableEq, Repr

/-- A table: a title, columns, and rows with one cell for each column. -/
structure Table where
  title : Text
  columns : List Column
  rows : List (List Text)
  deriving DecidableEq, Repr

namespace Table

/-- A column with its rendered cells, the heading first, and its width without the space around. -/
structure Layout where
  breaks : Bool
  cells : List Text
  width : Nat

/-- Whether a character ends a line of a cell when its width is taken. -/
def endsCellLine (c : Char) : Bool :=
  c = '\n' || c = '\x1c' || c = '\x1d' || c = '\x1e' || c = '\u0085' || c = '\u2028' || c = '\u2029'

/-- The width of the widest line of a cell, in which a tab takes no columns. -/
def cellWidth (cell : Text) : Nat :=
  let lines := Text.lines (cell.map fun c => if endsCellLine c then '\n' else c)
  (lines.map Text.width).foldl max 0

/-- The layout of a column. -/
def layout (column : Column) (cells : List Text) : Except MarkupError Layout := do
  let rendered ← (column.heading :: cells).mapM Markup.render
  .ok ⟨column.breaks, rendered, (rendered.map cellWidth).foldl max 0⟩

/-- A text with spaces after it up to `width` columns. -/
def padRight (width : Nat) (text : Text) : Text :=
  text ++ List.replicate (width - Text.width text) ' '

/-- A text in the middle of `width` columns; if the space around is odd the right side gets more. -/
def centre (width : Nat) (text : Text) : Text :=
  let kept := Text.dropEndWhile Text.isBlank text
  padRight width (List.replicate ((width - Text.width kept) / 2) ' ' ++ kept)

/-- The lines of a cell, with a space on either side. They are filled up twice, because a joiner at
the end of a line takes in the first space. -/
def cellLines (column : Layout) (cell : Text) : List Text :=
  let lines :=
    if column.breaks then Wrap.wrap column.width .ellipsis cell
    else Wrap.wrapNowhere column.width cell
  lines.map fun line =>
    [' '] ++ padRight column.width (padRight column.width line) ++ [' ']

/-- The lines of a row between vertical bars; a cell with fewer lines than another is filled up. -/
def rowLines (bar : Char) (cells : List (Layout × Text)) : List Text :=
  let columns := cells.map fun (column, cell) => (column.width + 2, cellLines column cell)
  let height := (columns.map fun column => column.2.length).foldl max 0
  (List.range height).map fun i =>
    [bar] ++ columns.flatMap fun (width, lines) =>
      lines.getD i (List.replicate width ' ') ++ [bar]

/-- A horizontal line with a corner at both ends and a crossing between columns. -/
def rule (left fill crossing right : Char) (columns : List Layout) : Text :=
  [left]
    ++ Text.joinWith [crossing] (columns.map fun column => List.replicate (column.width + 2) fill)
    ++ [right]

/-- The cells of a row, beside the columns they belong to. -/
def rowAt (columns : List Layout) (i : Nat) : List (Layout × Text) :=
  columns.map fun column => (column, column.cells.getD i [])

/-- The lines of a title. -/
def titleLines (width : Nat) (title : Text) : Except MarkupError (List Text) :=
  if title = [] then .ok []
  else (Markup.render title).map fun text => (Wrap.wrap width .fold text).map (centre width)

/-- The lines of a table. -/
def lines (table : Table) : Except MarkupError (List Text) := do
  let columns ← (List.range table.columns.length).mapM fun i =>
    layout (table.columns.getD i ⟨[], true⟩) (table.rows.map fun row => row.getD i [])
  let width := columns.foldl (fun sum column => sum + column.width + 3) 1
  let title ← titleLines width table.title
  .ok <|
    title
      ++ [rule '┏' '━' '┳' '┓' columns]
      ++ rowLines '┃' (rowAt columns 0)
      ++ [rule '┡' '━' '╇' '┩' columns]
      ++ (List.range table.rows.length).flatMap (fun i => rowLines '│' (rowAt columns (i + 1)))
      ++ [rule '└' '─' '┴' '┘' columns]

end Table

end ClassDiagram
