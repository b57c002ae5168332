import Chip8.Display
/-!
Access to a display by positions among which are truth values. A truth value takes up no axis: a
number beside it names a row, whichever place it stands at. With `true` the positions name every cell
that is left then, with `false` they name none; only one cell can be read or turned over. Positions
that are numbers mean what they always mean (`drawNamed_number`).
-/

namespace Chip8

variable {s : Size}

/-- The one cell that two positions name. -/
def Grid.namedCell (s : Size) (row col : Whole) : Except Misuse (Fin s.height × Fin s.width) :=
  match row, col with
  | .number row, .number col => Grid.cell s row col
  | .flag false, _ => .error .noPlaceNamed
  | _, .flag false => .error .noPlaceNamed
  | .flag true, .flag true =>
    if s.width = 1 ∧ s.height = 1 then .ok (⟨0, s.height_pos⟩, ⟨0, s.width_pos⟩)
    else .error .manyPlacesNamed
  | .flag true, .number row | .number row, .flag true => do
    let r ← cellAt s.height row
    if s.width = 1 then return (r, ⟨0, s.width_pos⟩) else throw .manyPlacesNamed

/-- `count` neighbouring positions from `start` on, each wrapped at the far edge; all after the first
    are numbers. -/
def namedWalk (size : Nat) (start : Whole) : Nat → List Whole
  | 0 => []
  | count + 1 =>
    let first := if (size : Int) ≤ start.toInt then .number 0 else start
    first :: (axisWalk size (first.toInt + 1) count).map .number

/-- The positions that a sprite at `(x, y)` turns over, in drawing order. -/
def namedSpriteCells (s : Size) (x y : Whole) (rows : List Int) : List (Whole × Whole) :=
  (rows.zip (namedWalk s.height y rows.length)).flatMap fun (bits, row) =>
    ((spriteBits bits).zip (namedWalk s.width x 8)).filterMap fun (on, col) =>
      if on then some (row, col) else none

/-- Turn over the pixels at the positions in order, up to the first that names no single cell. -/
def Grid.plotNamed (g : Grid s) (hit : Bool) : List (Whole × Whole) → Except Misuse Bool × Grid s
  | [] => (.ok hit, g)
  | (row, col) :: rest =>
    match Grid.namedCell s row col with
    | .error e => (.error e, g)
    | .ok (r, c) => Grid.plotNamed (g.flip r c) (hit || g.pixel r c) rest

namespace Display

/-- Draw a sprite with its top left corner at `(x, y)`. -/
def drawNamed (d : Display s) (x y : Whole) (rows : List Int) : Except Misuse Bool × Display s :=
  d.takeOver (d.grid.plotNamed false (namedSpriteCells s x y rows))

/-- The pixel at a row and a column. -/
def pixelNamed (d : Display s) (row col : Whole) : Except Misuse Bool :=
  (fun (r, c) => d.grid.pixel r c) <$> Grid.namedCell s row col

end Display

/-! ## Numbers -/

/-- From a number on, all positions are the numbers of the usual walk. -/
theorem namedWalk_number (size : Nat) (i : Int) (count : Nat) :
    namedWalk size (.number i) count = (axisWalk size i count).map .number := by
  cases count with
  | zero => rfl
  | succ count =>
    by_cases h : (size : Int) ≤ i <;> simp [namedWalk, axisWalk, wrapEdge, Whole.toInt, h]

/-- A cell that numbers name. -/
def numbered (cell : Int × Int) : Whole × Whole := (.number cell.1, .number cell.2)

/-- From a numbered corner on, a sprite turns over the usual positions. -/
theorem namedSpriteCells_number (s : Size) (x y : Int) (rows : List Int) :
    namedSpriteCells s (.number x) (.number y) rows =
      (spriteCells s x y rows).map numbered := by
  simp only [namedSpriteCells, spriteCells, namedWalk_number, List.zip_map_right,
    List.flatMap_map, List.map_flatMap, List.filterMap_map, List.map_filterMap]
  congr 1
  funext ⟨bits, row⟩
  congr 1
  funext ⟨on, col⟩
  cases on <;> rfl

/-- Numbers are turned over as usual. -/
theorem Grid.plotNamed_number (g : Grid s) (hit : Bool) (cells : List (Int × Int)) :
    g.plotNamed hit (cells.map numbered) = g.plot hit cells := by
  induction cells generalizing g hit with
  | nil => rfl
  | cons cell rest ih =>
    rcases cell with ⟨row, col⟩
    simp only [List.map_cons, numbered, Grid.plotNamed, Grid.plot, Grid.namedCell]
    cases Grid.cell s row col with
    | error e => rfl
    | ok place => exact ih _ _

/-- A sprite with a numbered corner is drawn as usual. -/
theorem Display.drawNamed_number (d : Display s) (x y : Int) (rows : List Int) :
    d.drawNamed (.number x) (.number y) rows = d.draw x y rows := by
  rw [drawNamed, draw, namedSpriteCells_number, Grid.plotNamed_number]

end Chip8
