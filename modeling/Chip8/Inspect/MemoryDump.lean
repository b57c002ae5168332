import Chip8.Memory
/-!
Memory dumps: rows of sixteen bytes, each with its address, the bytes in hexadecimal in two groups
of eight, and their ASCII characters. The last row is padded, so that the characters stand in line.
-/

namespace Chip8.MemoryDump

/-- One row: the bytes from an address on, at most sixteen. -/
structure Row where
  address : Nat
  bytes : List UInt8
  deriving DecidableEq, Repr

/-- The two characters of a byte, or two spaces where a short row has none. -/
def column (b : Option UInt8) : List Char :=
  match b with
  | some b => Text.hexChars 2 b.toNat
  | none => [' ', ' ']

/-- A byte as a character: itself if it can be printed, else a point. -/
def asciiChar (b : UInt8) : Char :=
  if 32 ≤ b.toNat ∧ b.toNat ≤ 126 then Char.ofNat b.toNat else '.'

/-- The characters of a row. -/
def Row.chars (r : Row) : List Char :=
  let column (k : Nat) : List Char := column r.bytes[k]?
  let group (start : Nat) : List Char :=
    [' '].intercalate ((List.range' start 8).map column)
  '$' :: Text.hexChars 4 r.address ++ [' ', '|', ' '] ++ group 0 ++ [' ', ' '] ++ group 8 ++
    [' ', '|', ' '] ++ r.bytes.map asciiChar

/-- The line of a row. -/
def Row.render (r : Row) : String := String.ofList r.chars

/-- The rows of the bytes that lie at `address`, sixteen to a row. -/
def rowsFrom (address : Nat) (bytes : List UInt8) : List Row :=
  match bytes with
  | [] => []
  | b :: rest =>
    -- the recursion is on what is left of the bytes, which is shorter by at least the one taken here
    ⟨address, b :: rest.take 15⟩ :: rowsFrom (address + 16) (rest.drop 15)
termination_by bytes.length
decreasing_by simp only [List.length_drop, List.length_cons]; omega

/-- Where a dump begins: the start brought into the address space. -/
def first (start : Int) : Nat := (max 0 (min start 4095)).toNat

/-- Where a dump ends: `size` bytes on, or at the end of the data. -/
def last (start size : Int) (length : Nat) : Nat :=
  (min ((first start : Int) + size) length).toNat

/-- The rows of a dump. -/
def rows (data : List UInt8) (start size : Int) : List Row :=
  rowsFrom (first start) ((data.take (last start size data.length)).drop (first start))

/-- The lines of a dump. -/
def lines (data : List UInt8) (start size : Int) : List String :=
  (rows data start size).map Row.render

end Chip8.MemoryDump
