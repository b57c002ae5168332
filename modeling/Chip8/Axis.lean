import Chip8.Failure
/-!
Positions on an axis of cells, and the numbers that a cell can hold. A negative position counts from
the far end, so `-1` is the last. Positions and numbers are machine words: what does not fit one is
refused before anything else is looked at.
-/

namespace Chip8

/-- The cell at position `i` of an axis with `size` cells. -/
def axisIndex? (size : Nat) (i : Int) : Option (Fin size) :=
  if h : 0 ≤ i ∧ i < size then some ⟨i.toNat, by omega⟩
  else if h : i < 0 ∧ -(size : Int) ≤ i then some ⟨(i + size).toNat, by omega⟩
  else none

/-- The bound of a register, a key or a stack cell, by a name of its own: look-ups that use it are the
    same terms wherever they are written. -/
theorem lt_sixteen (k : Fin 16) : k.val < 16 := k.isLt

/-- Is the number a signed one of 64 bits? -/
def isWord64 (n : Int) : Bool := -0x8000000000000000 ≤ n && n < 0x8000000000000000

/-- Positions are signed numbers of 64 bits. The bits of one that is not may be those of an unsigned
    number; then it is a number, but too long. -/
def checkPosition (i : Int) : Except Misuse Unit :=
  if isWord64 i then .ok ()
  -- between the largest signed and the largest unsigned number
  else if 0 ≤ i ∧ i < 0x10000000000000000 then .error .numberTooLong
  else .error .notAPosition

/-- The cell at a checked position of the axis with the given number. -/
def cellOn (axis size : Nat) (i : Int) : Except Misuse (Fin size) :=
  match axisIndex? size i with
  | some k => .ok k
  | none => .error (.indexOutOfRange i axis size)

/-- The cell at a position of a row of cells. -/
def cellAt (size : Nat) (i : Int) : Except Misuse (Fin size) := do
  checkPosition i
  cellOn 0 size i

/-- What a cell of `bits` bits holds of a number: all of it or nothing. -/
def checkValue (bits : Nat) (value : Int) : Except Misuse Nat :=
  if !isWord64 value then .error .numberTooLong
  else if 0 ≤ value ∧ value.toNat < 1 <<< bits then .ok value.toNat
  else .error (.valueOutOfRange value bits)

/-- Exactly the positions from `-size` to below `size` have a cell. -/
theorem axisIndex?_eq_none_iff (size : Nat) (i : Int) :
    axisIndex? size i = none ↔ i < -(size : Int) ∨ (size : Int) ≤ i := by
  unfold axisIndex?
  split
  · simp; omega
  · split <;> simp <;> omega

/-- A position that is not negative is its own cell. -/
theorem axisIndex?_natCast {size k : Nat} (h : k < size) :
    axisIndex? size (k : Int) = some ⟨k, h⟩ := by
  unfold axisIndex?
  rw [dif_pos ⟨by omega, by omega⟩]
  rfl

/-- Positions within the machine word are passed on. -/
theorem checkPosition_of_isWord64 {i : Int} (h : isWord64 i) : checkPosition i = .ok () := by
  simp [checkPosition, h]

/-- Positions within the machine word are looked up at once. -/
theorem cellAt_of_isWord64 {i : Int} (size : Nat) (h : isWord64 i) :
    cellAt size i = cellOn 0 size i := by
  rw [cellAt, checkPosition_of_isWord64 h]
  rfl

/-- A position that is not negative and below the size of the row is its own cell. -/
theorem cellAt_natCast {size k : Nat} (h : k < size) (hw : isWord64 k) :
    cellAt size (k : Int) = .ok ⟨k, h⟩ := by
  rw [cellAt_of_isWord64 size hw, cellOn, axisIndex?_natCast h]

end Chip8
