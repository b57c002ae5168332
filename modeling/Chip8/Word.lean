import Chip8.Failure
/-!
Instruction words: sixteen bits, and the fields that the families of instructions use.

What a word is called (`mnemonic`) and what it does (`Board.execute`) are two functions of the word that
know nothing of each other. They share these fields and no more: each finds out by itself which
instruction the word is, if it is one.
-/

namespace Chip8

/-- An instruction word. -/
abbrev Word := UInt16

namespace Word

/-- The word of two bytes, high byte first. -/
def ofBytes (hi lo : UInt8) : Word := UInt16.ofNat (hi.toNat * 256 + lo.toNat)

/-- The high byte. -/
def high (w : Word) : UInt8 := UInt8.ofNat (w.toNat / 256)

/-- The low byte, an immediate value. -/
def kk (w : Word) : UInt8 := UInt8.ofNat (w.toNat % 256)

/-- The first nibble. -/
def family (w : Word) : Nat := w.toNat / 4096

/-- The second nibble, a register. -/
def x (w : Word) : Fin 16 := ⟨w.toNat / 256 % 16, Nat.mod_lt _ (by decide)⟩

/-- The third nibble, a register. -/
def y (w : Word) : Fin 16 := ⟨w.toNat / 16 % 16, Nat.mod_lt _ (by decide)⟩

/-- The last nibble. -/
def n (w : Word) : Fin 16 := ⟨w.toNat % 16, Nat.mod_lt _ (by decide)⟩

/-- The last three nibbles, an address. -/
def address (w : Word) : Fin 4096 := ⟨w.toNat % 4096, Nat.mod_lt _ (by decide)⟩

/-- A number as a word, if it fits sixteen bits. -/
def ofInt? (n : Int) : Except Misuse Word :=
  if 0 ≤ n ∧ n ≤ 0xFFFF then .ok (UInt16.ofNat n.toNat) else .error (.wordOutOfRange n)

end Word

end Chip8
