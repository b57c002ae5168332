import Chip8.Word
/-!
The assembly text of instruction words.

Registers are `V0` to `VF`, bytes have two hexadecimal digits and addresses three; the row count of a
drawing is the one lower-case digit. `mnemonic` goes by the first nibble of a word. Three families hold
several instructions: each has a table of its texts, by the last nibble or by the low byte, and a word
that its table does not list has the text `unknownText`.
-/

namespace Chip8

/-- The text of a word that is no instruction. -/
def unknownText : String := "??"

namespace Assembly

/-- A register's name. -/
def registerName (x : Fin 16) : String := "V" ++ Text.hex 1 x.val

/-- An address. -/
def addressText (nnn : Fin 4096) : String := "0x" ++ Text.hex 3 nnn.val

/-- An immediate byte. -/
def byteText (kk : UInt8) : String := "0x" ++ Text.hex 2 kk.toNat

/-- An operation on two operands. -/
def twoOperands (operation first second : String) : String :=
  operation ++ " " ++ first ++ ", " ++ second

/-- The texts of the words `8xyn`, by the last nibble. The shifts do not say what `y` is. -/
def aluTexts (x y : Fin 16) : List (Nat × String) :=
  [(0x0, twoOperands "LD" (registerName x) (registerName y)),
   (0x1, twoOperands "OR" (registerName x) (registerName y)),
   (0x2, twoOperands "AND" (registerName x) (registerName y)),
   (0x3, twoOperands "XOR" (registerName x) (registerName y)),
   (0x4, twoOperands "ADD" (registerName x) (registerName y)),
   (0x5, twoOperands "SUB" (registerName x) (registerName y)),
   (0x6, "SHR " ++ registerName x),
   (0x7, twoOperands "SUBN" (registerName x) (registerName y)),
   (0xE, "SHL " ++ registerName x)]

/-- The texts of the words `Exkk`, by the low byte. -/
def keyTexts (x : Fin 16) : List (UInt8 × String) :=
  [(0x9E, "SKP " ++ registerName x), (0xA1, "SKNP " ++ registerName x)]

/-- The texts of the words `Fxkk`, by the low byte. -/
def miscTexts (x : Fin 16) : List (UInt8 × String) :=
  [(0x07, twoOperands "LD" (registerName x) "DT"),
   (0x0A, twoOperands "LD" (registerName x) "K"),
   (0x15, twoOperands "LD" "DT" (registerName x)),
   (0x18, twoOperands "LD" "ST" (registerName x)),
   (0x1E, twoOperands "ADD" "I" (registerName x)),
   (0x29, twoOperands "LD" "F" (registerName x)),
   (0x33, twoOperands "LD" "B" (registerName x)),
   (0x55, twoOperands "LD" "[I]" (registerName x)),
   (0x65, twoOperands "LD" (registerName x) "[I]")]

end Assembly

open Assembly in
/-- The assembly text of a word. -/
def mnemonic (w : Word) : String :=
  match w.family with
  | 0x0 =>
    if w = 0x00E0 then "CLS"
    else if w = 0x00EE then "RET"
    else "SYS " ++ addressText w.address
  | 0x1 => "JMP " ++ addressText w.address
  | 0x2 => "CALL " ++ addressText w.address
  | 0x3 => twoOperands "SE" (registerName w.x) (byteText w.kk)
  | 0x4 => twoOperands "SNE" (registerName w.x) (byteText w.kk)
  | 0x5 => if w.n.val = 0 then twoOperands "SE" (registerName w.x) (registerName w.y) else unknownText
  | 0x6 => twoOperands "LD" (registerName w.x) (byteText w.kk)
  | 0x7 => twoOperands "ADD" (registerName w.x) (byteText w.kk)
  | 0x8 => ((aluTexts w.x w.y).lookup w.n.val).getD unknownText
  | 0x9 => if w.n.val = 0 then twoOperands "SNE" (registerName w.x) (registerName w.y) else unknownText
  | 0xA => twoOperands "LD" "I" (addressText w.address)
  | 0xB => twoOperands "JP" "V0" (addressText w.address)
  | 0xC => twoOperands "RND" (registerName w.x) (byteText w.kk)
  | 0xD =>
    twoOperands "DRW" (registerName w.x) (registerName w.y) ++ ", " ++ Text.hexLiteral w.n.val
  | 0xE => ((keyTexts w.x).lookup w.kk).getD unknownText
  | _ => ((miscTexts w.x).lookup w.kk).getD unknownText

end Chip8
