import TableTalk.Text.Blank
import TableTalk.Text.Styling
import TableTalk.Text.Width

/-!
# Boxed grids

A grid is a header and rows of texts in a box.  Every column is as wide as its widest line,
with one space on either side; a cell of several lines makes its row that high.

## Main definitions

* `Grid` — the texts and how they are drawn.
* `Grid.columnWidths` — the widths of the columns.
* `Grid.lines`, `Grid.render` — the drawing.
-/

namespace TableTalk

/-- The lines between the columns and between the rows of a grid. -/
inductive GridStyle where
  /-- Dotted lines between the columns and none between the rows. -/
  | dotted
  /-- Solid lines between the columns and between the rows. -/
  | ruled
  deriving Repr, DecidableEq

/-- A header and rows of texts. -/
structure Grid where
  /-- The texts above the columns. -/
  header : List String
  /-- The rows, with one text for each column. -/
  rows : List (List String)
  /-- The positions of the columns whose texts stand on the right. -/
  rightAligned : List Nat := []
  /-- How the grid is drawn. -/
  style : GridStyle := .dotted
  deriving Repr, DecidableEq

namespace Grid

/-! ### Cells -/

/-- The largest of some numbers. -/
def largest (ns : List Nat) : Nat := ns.foldl max 0

/-- The lines of a cell.  A style that is on at the end of a line goes on in the next one,
and does not go on behind the cell. -/
def cellLines (text : String) : List String :=
  Styling.closed [] ((Text.cutAt (· == '\n') text.toList).map String.ofList)

/-- The columns of the terminal that a line fills. -/
def lineWidth (line : String) : Nat := Width.ofText (Styling.shown line)

/-- The columns of the terminal that a cell fills. -/
def cellWidth (text : String) : Nat := largest ((cellLines text).map lineWidth)

/-- The widths of the columns. -/
def columnWidths (g : Grid) : List Nat :=
  g.header.zipIdx.map fun (name, i) =>
    largest ((name :: g.rows.map fun row => row[i]?.getD "").map cellWidth)

/-- A line of a cell, filled up to a width, with a space on either side. -/
def padded (right : Bool) (width : Nat) (line : String) : String :=
  let fill := String.ofList (List.replicate (width - lineWidth line) ' ')
  if right then s!" {fill}{line} " else s!" {line}{fill} "

/-! ### Lines -/

/-- The line between two columns. -/
def columnLine (g : Grid) : String :=
  match g.style with
  | .dotted => "┆"
  | .ruled => "│"

/-- A line across the grid, from its left end, its filling, its crossings and its right end. -/
def across (widths : List Nat) (left : String) (fill : Char) (crossing right : String) : String :=
  let pieces := widths.map fun width => String.ofList (List.replicate (width + 2) fill)
  left ++ crossing.intercalate pieces ++ right

/-- The lines of a row of cells. -/
def rowLines (g : Grid) (widths : List Nat) (cells : List String) : List String :=
  let parts := cells.map cellLines
  let line := fun k => (parts.zip widths).zipIdx.map fun ((part, width), i) =>
    padded (g.rightAligned.contains i) width (part[k]?.getD "")
  (List.range (largest (parts.map List.length))).map fun k =>
    "│" ++ g.columnLine.intercalate (line k) ++ "│"

/-- The lines between two rows. -/
def betweenRows (g : Grid) (widths : List Nat) : List String :=
  match g.style with
  | .dotted => []
  | .ruled => [across widths "├" '─' "┼" "┤"]

/-- The lines of the drawing. -/
def lines (g : Grid) : List String :=
  let widths := g.columnWidths
  [across widths "╭" '─' "┬" "╮"] ++ g.rowLines widths g.header ++
    [across widths "╞" '═' "╪" "╡"] ++
    (g.betweenRows widths).intercalate (g.rows.map (g.rowLines widths)) ++
    [across widths "╰" '─' "┴" "╯"]

/-- The drawing, without a line end at its end. -/
def render (g : Grid) : String := "\n".intercalate g.lines

end Grid
end TableTalk
