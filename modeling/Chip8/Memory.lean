import Chip8.Axis
import Chip8.Failure
/-!
The 4096 cells of memory. A hexadecimal font lies at the bottom, programs start at `$200`, and
nothing is write-protected. Single accesses and whole loads are checked before anything changes.
-/

namespace Chip8

/-- The address of the first byte of a program. -/
def programStart : Nat := 0x200

/-- The number of cells. -/
def memorySize : Nat := 0x1000

/-- The longest program image. -/
def maxImageSize : Nat := 0xE00

/-- Glyphs of the sixteen hexadecimal digits, five rows each; a row uses the high four bits. -/
def font : Vector UInt8 80 := #v[
  0xF0, 0x90, 0x90, 0x90, 0xF0,
  0x20, 0x60, 0x20, 0x20, 0x70,
  0xF0, 0x10, 0xF0, 0x80, 0xF0,
  0xF0, 0x10, 0xF0, 0x10, 0xF0,
  0x90, 0x90, 0xF0, 0x10, 0x10,
  0xF0, 0x80, 0xF0, 0x10, 0xF0,
  0xF0, 0x80, 0xF0, 0x90, 0xF0,
  0xF0, 0x10, 0x20, 0x40, 0x40,
  0xF0, 0x90, 0xF0, 0x90, 0xF0,
  0xF0, 0x90, 0xF0, 0x10, 0xF0,
  0xF0, 0x90, 0xF0, 0x90, 0x90,
  0xE0, 0x90, 0xE0, 0x90, 0xE0,
  0xF0, 0x80, 0x80, 0x80, 0xF0,
  0xE0, 0x90, 0x90, 0x90, 0xE0,
  0xF0, 0x80, 0xF0, 0x80, 0xF0,
  0xF0, 0x80, 0xF0, 0x80, 0x80]

/-- The address of the glyph of a digit. -/
def glyphAddress (digit : Int) : Except Fault Int :=
  if 0 ≤ digit ∧ digit ≤ 15 then .ok (digit * 5) else .error (.invalidDigit digit)

/-- The address space: one byte per cell. -/
structure Memory where
  cells : Vector UInt8 4096
  deriving DecidableEq

namespace Memory

/-- What the cells hold before anything is loaded: the font, and zero above it. -/
def blank : Memory :=
  ⟨Vector.ofFn fun a => if h : a.val < 80 then font[a.val] else 0⟩

/-- The cell at an address. -/
def locate (address : Int) : Except Fault (Fin 4096) :=
  if h : 0 ≤ address ∧ address < 4096 then .ok ⟨address.toNat, by omega⟩
  else .error (.addressOutOfRange address)

/-- The byte at an address. -/
def read (m : Memory) (address : Int) : Except Fault UInt8 :=
  (fun a : Fin 4096 => m.cells[a.val]) <$> locate address

/-- Put a byte at an address. -/
def put (m : Memory) (address : Int) (value : UInt8) : Except Fault Memory :=
  (fun a : Fin 4096 => ⟨m.cells.set a.val value⟩) <$> locate address

/-- Put the low eight bits of a number at an address. -/
def write (m : Memory) (address value : Int) : Except Fault Memory :=
  m.put address (UInt8.ofNat (value % 256).toNat)

/-- The end of a block of `length` cells from `start`: a block that ends below zero ends at that
    place counted from the top of memory. -/
def blockEnd (start length : Int) : Nat :=
  let stop := start + length
  if stop < 0 then (stop + 4096).toNat else stop.toNat

/-- The bytes of a block. A block of positive length must lie in memory as a whole. -/
def readBlock (m : Memory) (start length : Int) : Except Fault (List UInt8) := do
  let first ← locate start
  if 0 < length then
    -- the last address is looked at only for a length above zero
    let _ ← locate (start + length - 1)
  return (m.cells.toList.take (blockEnd start length)).drop first.val

/-- Copy an image to the program area. Nothing is written if it does not fit. -/
def load (m : Memory) (image : List UInt8) : Except Fault Memory :=
  if maxImageSize < image.length then .error (.programTooLarge image.length maxImageSize)
  else
    -- cells below and behind the image keep what they hold
    let bytes := image.toArray
    .ok ⟨m.cells.mapFinIdx fun a old _ =>
      if programStart ≤ a then bytes[a - programStart]?.getD old else old⟩

/-- The bytes that numbers stand for; each must be in 0 to 255. -/
def bytesOfInts : List Int → Except Misuse (List UInt8)
  | [] => .ok []
  | v :: vs =>
    if 0 ≤ v ∧ v ≤ 255 then (UInt8.ofNat v.toNat :: ·) <$> bytesOfInts vs
    else .error .byteOutOfRange

/-- Load an image given as numbers. -/
def loadInts (m : Memory) (image : List Int) : Except Failure Memory :=
  match bytesOfInts image with
  | .error e => .error (.misuse e)
  | .ok bytes =>
    match m.load bytes with
    | .error f => .error (.fault f)
    | .ok m => .ok m

/-- One line about the memory. -/
def describe : String := "<Memory size=4096 program_start=$200>"

/-! ## Addresses -/

theorem locate_eq_error_iff (a : Int) (f : Fault) :
    locate a = .error f ↔ (a < 0 ∨ 4095 < a) ∧ f = .addressOutOfRange a := by
  unfold locate
  split
  · simp; omega
  · constructor
    · intro h
      exact ⟨by omega, by simpa using h.symm⟩
    · rintro ⟨_, rfl⟩
      rfl

theorem locate_of_lt {k : Nat} (h : k < 4096) : locate (k : Int) = .ok ⟨k, h⟩ := by
  unfold locate
  rw [dif_pos ⟨by omega, by omega⟩]
  rfl

end Memory

end Chip8
