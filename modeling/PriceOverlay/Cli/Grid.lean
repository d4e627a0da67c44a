import PriceOverlay.Text.Width
/-!
# Grids

Rows of cells under their headings, framed by lines with round corners. A column is as
wide as its widest line, and a cell may have several lines.
-/
namespace PriceOverlay.Cli

structure Grid where
  headings : List String
  rows : List (List String)

namespace Grid

def lines (cell : String) : List String := (cell.toList.splitOn '\n').map String.ofList

def cellWidth (cell : String) : Nat := ((lines cell).map Text.width).foldl max 0

def repeated (n : Nat) (c : Char) : String := String.ofList (List.replicate n c)

/-- The width of each column. -/
def widths (g : Grid) : List Nat :=
  g.headings.zipIdx.map fun h =>
    (g.rows.map fun r => cellWidth (r[h.2]?.getD "")).foldl max (cellWidth h.1)

/-- A line of the frame. -/
def rule (left middle right : String) (ws : List Nat) : String :=
  left ++ middle.intercalate (ws.map fun w => repeated (w + 2) '─') ++ right

/-- A text with blanks after it. -/
def padded (w : Nat) (s : String) : String := s ++ repeated (w - Text.width s) ' '

/-- The lines of a row. -/
def rowLines (ws : List Nat) (cells : List String) : List String :=
  let cells := cells.map lines
  let height := (cells.map List.length).foldl max 1
  (List.range height).map fun i =>
    "│" ++ "│".intercalate ((ws.zip cells).map fun p =>
      " " ++ padded p.1 (p.2[i]?.getD "") ++ " ") ++ "│"

/-- The lines of the grid. -/
def text (g : Grid) : List String :=
  let ws := g.widths
  rule "╭" "┬" "╮" ws :: rowLines ws g.headings ++ rule "├" "┼" "┤" ws ::
    g.rows.flatMap (rowLines ws) ++ [rule "╰" "┴" "╯" ws]

end Grid
end PriceOverlay.Cli
