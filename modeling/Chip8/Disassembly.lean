import Chip8.Memory
import Chip8.Mnemonic
/-!
Listings of program images: one line for every complete word, and one for a last odd byte.
-/

namespace Chip8

/-- One line of a listing: where it stands, its word or byte, and its text. -/
structure ListingLine where
  address : Int
  word : Nat
  text : String
  deriving DecidableEq, Repr

/-- The line as it is printed. -/
def ListingLine.render (l : ListingLine) : String :=
  "$" ++ Text.hex 4 l.address ++ "  " ++ Text.hex 4 l.word ++ "  " ++ l.text

/-- The listing of the bytes that lie at `address`. -/
def disassemble (address : Int) : List UInt8 → List ListingLine
  | [] => []
  | [last] => [⟨address, last.toNat, "DB 0x" ++ Text.hex 2 last.toNat⟩]
  | hi :: lo :: rest =>
    ⟨address, (Word.ofBytes hi lo).toNat, mnemonic (Word.ofBytes hi lo)⟩ ::
      disassemble (address + 2) rest

/-- The complete words of the bytes that lie at `address`. -/
def wordsAt (address : Nat) : List UInt8 → List (Nat × Word)
  | hi :: lo :: rest => (address, Word.ofBytes hi lo) :: wordsAt (address + 2) rest
  | _ => []

/-- Two bytes make a line, so there are half as many lines as bytes, rounded up. -/
theorem length_disassemble (address : Int) (bytes : List UInt8) :
    (disassemble address bytes).length = (bytes.length + 1) / 2 := by
  fun_induction disassemble address bytes with
  | case1 => rfl
  | case2 => simp
  | case3 address hi lo rest ih => simp only [List.length_cons, ih]; omega

end Chip8
