import ChatLedger.Text.Columns

/-!
# Tables on a terminal

A table is as wide as its content. Its frame has double lines under the headings and none between
the rows; a line break in a cell makes the whole row taller.
-/

namespace ChatLedger.Terminal

/-- A table with headings. -/
structure Table where
  headings : List String
  rows : List (List String)
  deriving Repr, DecidableEq

namespace Table

/-- The lines of a cell. -/
def cellLines (cell : String) : List String := cell.splitOn "\n"

/-- The columns that a cell takes. -/
def cellWidth (cell : String) : Nat := ((cellLines cell).map Text.columns).foldl max 0

/-- The width of each column: that of its widest cell. -/
def widths (t : Table) : List Nat :=
  t.rows.foldl (fun widths row => List.zipWith max widths (row.map cellWidth))
    (t.headings.map cellWidth)

/-- A line of the frame. -/
def ruler (left fill crossing right : String) (widths : List Nat) : String :=
  let pieces := widths.map fun width => String.join (List.replicate (width + 2) fill)
  left ++ String.intercalate crossing pieces ++ right

/-- The lines of a row. -/
def rowLines (widths : List Nat) (row : List String) : List String :=
  let cells := row.map cellLines
  let height := (cells.map List.length).foldl max 1
  (List.range height).map fun i =>
    let piece (width : Nat) (lines : List String) : String :=
      " " ++ Text.padTo width (lines[i]?.getD "") ++ " "
    let pieces := List.zipWith piece widths cells
    "│" ++ String.intercalate "┆" pieces ++ "│"

/-- The lines of a table. -/
def lines (t : Table) : List String :=
  let widths := t.widths
  ruler "┌" "─" "┬" "┐" widths :: rowLines widths t.headings ++
    ruler "╞" "═" "╪" "╡" widths :: t.rows.flatMap (rowLines widths) ++
    [ruler "└" "─" "┴" "┘" widths]

end Table

end ChatLedger.Terminal
