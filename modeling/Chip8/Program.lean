import Chip8.Disassembly
import Chip8.Log.Record
import Chip8.Text.Quoted
/-!
Program images: raw big-endian words without a header, copied to `$200` as they are. An image holds
at least one byte and no more than fit into memory.
-/

namespace Chip8

/-- A program: its bytes and the path that it was read from, if any. -/
structure Program where
  file : String
  bytes : List UInt8
  fits : bytes.length ≤ maxImageSize

/-- Why an image was refused. -/
inductive ImageError where
  /-- Something that is not bytes. -/
  | notBytes (typeName : String)
  | empty
  | tooLarge (size : Nat)
  /-- The file at `path` could not be read. -/
  | unreadable (path reason : String)
  deriving DecidableEq, Repr

/-- The sentence about a refused image. -/
def ImageError.message : ImageError → String
  | notBytes typeName => s!"Expected bytes or bytearray, got {typeName}"
  | empty => "Program image is empty"
  | tooLarge size => s!"Program too large: {size} bytes, maximum {maxImageSize}"
  | unreadable path reason => s!"Failed to read file {path}: {reason}"

namespace Program

/-- No program. -/
def empty : Program := ⟨"", [], Nat.zero_le _⟩

/-- The program with the given image. -/
def ofBytes (bytes : List UInt8) : Except ImageError Program :=
  if bytes.isEmpty then .error .empty
  else if h : bytes.length ≤ maxImageSize then .ok ⟨"", bytes, h⟩
  else .error (.tooLarge bytes.length)

/-- The number of bytes. -/
def size (p : Program) : Nat := p.bytes.length

/-- The complete words and their addresses. -/
def words (p : Program) : List (Nat × Word) := wordsAt programStart p.bytes

/-- The listing of the image where it is loaded. -/
def listing (p : Program) : List ListingLine := disassemble programStart p.bytes

/-- What is logged when the image is accepted: a last odd byte is worth a warning. -/
def notices (p : Program) : List LogRecord :=
  if p.size % 2 = 0 then []
  else [⟨.warning, s!"Program image has odd length ({p.size} bytes), last byte is data only"⟩]

/-- One line about the program. -/
def describe (p : Program) : String :=
  s!"<Program file={Text.quoted p.file} size={p.size} bytes>"

/-- The name that a loaded program is announced by. -/
def title (p : Program) : String := if p.file.isEmpty then "program" else p.file

/-- Exactly the images of one byte up to the limit are accepted, as they are. -/
theorem ofBytes_eq_ok_iff (bytes : List UInt8) (p : Program) :
    ofBytes bytes = .ok p ↔
      p.file = "" ∧ p.bytes = bytes ∧ bytes ≠ [] ∧ bytes.length ≤ maxImageSize := by
  unfold ofBytes
  rcases p with ⟨file, image, fits⟩
  by_cases he : bytes = []
  · simp [he]
  · by_cases hl : bytes.length ≤ maxImageSize
    · simp only [List.isEmpty_iff, he, if_false, hl, dif_pos, Except.ok.injEq, Program.mk.injEq]
      constructor
      · rintro ⟨rfl, rfl⟩; exact ⟨rfl, rfl, he, trivial⟩
      · rintro ⟨rfl, rfl, -, -⟩; exact ⟨rfl, rfl⟩
    · simp [List.isEmpty_iff, he, hl]

end Program

end Chip8
