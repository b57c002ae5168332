import Chip8.Axis
/-!
The monochrome display. Drawing turns pixels over: a sprite is the list of the cells that its set
bits fall on, in the order in which they are turned, and a collision is a lit pixel that went out.
-/

namespace Chip8

/-- Columns and rows of a display: at least one of each, and no more pixels than a signed number of
    64 bits can count. -/
structure Size where
  width : Nat
  height : Nat
  width_pos : 0 < width := by decide
  height_pos : 0 < height := by decide
  countable : width * height < 0x8000000000000000 := by decide
  deriving DecidableEq, Repr

namespace Size

/-- The usual display. -/
def standard : Size := { width := 64, height := 32 }

/-- A size that a display can have. `room` is the number of pixels for which the host has memory. -/
def ofInts (room : Nat) (width height : Int) : Except Misuse Size :=
  if hp : 0 < width ∧ 0 < height then
    -- sides are looked at before their product, as an array does
    if !isWord64 width || !isWord64 height then .error .displaySideTooLong
    else if hc : width.toNat * height.toNat < 0x8000000000000000 then
      if room < width.toNat * height.toNat then
        .error (.noRoomForDisplay width.toNat height.toNat)
      else .ok ⟨width.toNat, height.toNat, by omega, by omega, hc⟩
    else .error .displayTooLarge
  else .error (.badDisplaySize (.number width) (.number height))

/-- A size that a display can have. The height is looked at first. -/
def ofWholes (room : Nat) (width height : Whole) : Except Misuse Size :=
  match width, height with
  | .number width, .number height => ofInts room width height
  | _, _ =>
    if 0 < width.toInt ∧ 0 < height.toInt then
      if isWord64 height.toInt then .error .displaySideNotANumber else .error .displaySideTooLong
    else .error (.badDisplaySize width height)

/-- A size has the columns and the rows that were asked for. -/
theorem ofInts_eq_ok {room : Nat} {width height : Int} {s : Size} (h : ofInts room width height = .ok s) :
    s.width = width ∧ s.height = height := by
  unfold ofInts at h
  split at h
  · split at h
    · cases h
    · split at h
      · split at h
        · cases h
        · cases h
          exact ⟨by simp only; omega, by simp only; omega⟩
      · cases h
  · cases h

/-- Neither side of a display is longer than its pixels are many. -/
theorem sides_le (s : Size) :
    s.width ≤ s.width * s.height ∧ s.height ≤ s.width * s.height :=
  ⟨Nat.le_mul_of_pos_right _ s.height_pos, Nat.le_mul_of_pos_left _ s.width_pos⟩

end Size

/-- The pixels, row by row. -/
abbrev Grid (s : Size) := Vector (Vector Bool s.width) s.height

namespace Grid

variable {s : Size}

/-- Every pixel off. -/
def blank : Grid s := Vector.replicate _ (Vector.replicate _ false)

/-- The pixel at a cell. -/
def pixel (g : Grid s) (r : Fin s.height) (c : Fin s.width) : Bool := (g[r.val])[c.val]

/-- Turn one pixel over. -/
def flip (g : Grid s) (r : Fin s.height) (c : Fin s.width) : Grid s :=
  g.set r.val ((g[r.val]).set c.val (!g.pixel r c))

/-- The cell at a row and a column. Both must be positions; then the row is looked at first. -/
def cell (s : Size) (row col : Int) : Except Misuse (Fin s.height × Fin s.width) := do
  checkPosition row
  checkPosition col
  let r ← cellOn 0 s.height row
  let c ← cellOn 1 s.width col
  return (r, c)

/-- How many pixels are lit. -/
def lit (g : Grid s) : Nat := (g.toList.flatMap (·.toList)).count true

/-- One string per row. -/
def lines (g : Grid s) (lit unlit : String) : List String :=
  g.toList.map fun row => String.join (row.toList.map fun p => if p then lit else unlit)

end Grid

/-! ## Sprites -/

/-- A position that has reached the far edge starts again at the near one. -/
def wrapEdge (size : Nat) (i : Int) : Int := if (size : Int) ≤ i then 0 else i

/-- `count` neighbouring positions from `start` on, each wrapped at the far edge. -/
def axisWalk (size : Nat) (start : Int) : Nat → List Int
  | 0 => []
  | count + 1 => wrapEdge size start :: axisWalk size (wrapEdge size start + 1) count

/-- The low eight bits of a row value, the highest first. -/
def spriteBits (row : Int) : List Bool :=
  [7, 6, 5, 4, 3, 2, 1, 0].map fun (shift : Nat) => decide (row >>> shift % 2 = 1)

/-- The positions that a sprite at `(x, y)` turns over, in drawing order. -/
def spriteCells (s : Size) (x y : Int) (rows : List Int) : List (Int × Int) :=
  (rows.zip (axisWalk s.height y rows.length)).flatMap fun (bits, row) =>
    ((spriteBits bits).zip (axisWalk s.width x 8)).filterMap fun (on, col) =>
      if on then some (row, col) else none

/-- Turn over the pixels at the positions in order, up to the first that is not on the grid. -/
def Grid.plot {s : Size} (g : Grid s) (hit : Bool) :
    List (Int × Int) → Except Misuse Bool × Grid s
  | [] => (.ok hit, g)
  | (row, col) :: rest =>
    match Grid.cell s row col with
    | .error e => (.error e, g)
    | .ok (r, c) => Grid.plot (g.flip r c) (hit || g.pixel r c) rest

/-- The display: its pixels, and whether a picture was finished since this was last asked. -/
structure Display (s : Size) where
  grid : Grid s
  frameReady : Bool
  deriving DecidableEq

namespace Display

variable {s : Size}

/-- All pixels off and no picture finished. -/
def blank : Display s := ⟨Grid.blank, false⟩

/-- Switch all pixels off; that is a finished picture. -/
def clear (_ : Display s) : Display s := ⟨Grid.blank, true⟩

/-- Take over the pixels that a drawing left. It finished a picture unless it failed. -/
def takeOver (d : Display s) (drawing : Except Misuse Bool × Grid s) :
    Except Misuse Bool × Display s :=
  match drawing with
  | (.ok hit, g) => (.ok hit, ⟨g, true⟩)
  -- the pixels up to the failure are turned over all the same
  | (.error e, g) => (.error e, { d with grid := g })

/-- Draw a sprite with its top left corner at `(x, y)`. The answer is whether a lit pixel went
    out. If a position is not on the grid, what was drawn before it stays and no picture is
    finished. -/
def draw (d : Display s) (x y : Int) (rows : List Int) : Except Misuse Bool × Display s :=
  d.takeOver (d.grid.plot false (spriteCells s x y rows))

/-- The pixel at a row and a column. -/
def pixel (d : Display s) (row col : Int) : Except Misuse Bool :=
  (fun (r, c) => d.grid.pixel r c) <$> Grid.cell s row col

/-- Whether a picture was finished since this was last asked. -/
def takeFrameReady (d : Display s) : Bool × Display s :=
  (d.frameReady, { d with frameReady := false })

/-- One line about the display. -/
def describe (d : Display s) : String := s!"<Display {s.width}x{s.height} lit={d.grid.lit}>"

end Display

end Chip8
