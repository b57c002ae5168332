import Chip8.Text.Hex
import Chip8.Text.Markup
import Chip8.Text.Wrap
/-!
Tables drawn with lines: a title in the middle above, which may be marked up, a heavy frame around
the header, a light one around the rows.
-/

namespace Chip8.Text

/-- Texts in rows and columns under a header. -/
structure Table where
  title : String
  header : List String
  rows : List (List String)

namespace Table

/-- The width of the longest text in every column. -/
def widths (t : Table) : List Nat :=
  t.rows.foldl (fun ws row => List.zipWith max ws (row.map String.length))
    (t.header.map String.length)

/-- A line of cells, each with a space on either side. -/
def cells (bar : String) (ws : List Nat) (row : List String) : String :=
  bar ++ String.join (List.zipWith (fun w text => " " ++ padRight w text ++ " " ++ bar) ws row)

/-- A line between rows. -/
def rule (left line joint right : String) (ws : List Nat) : String :=
  let piece (w : Nat) : String := String.join (List.replicate (w + 2) line)
  left ++ joint.intercalate (ws.map piece) ++ right

/-- The number of columns that the drawing takes up. -/
def totalWidth (ws : List Nat) : Nat := ws.foldl (· + 3 + ·) 1

/-- The lines of the title. -/
def titleLines (t : Table) (width : Nat) : List String :=
  ((Markup.shown t.title).splitOn "\n").flatMap fun line => (wrap width line).map (center width)

/-- The lines of the drawing. -/
def render (t : Table) : List String :=
  let ws := t.widths
  t.titleLines (totalWidth ws) ++
    [rule "┏" "━" "┳" "┓" ws, cells "┃" ws t.header, rule "┡" "━" "╇" "┩" ws] ++
    t.rows.map (cells "│" ws) ++
    [rule "└" "─" "┴" "┘" ws]

end Table

end Chip8.Text
