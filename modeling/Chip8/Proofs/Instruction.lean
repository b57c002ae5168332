import Chip8.Board
import Chip8.Mnemonic
/-!
The instructions, as a type.

The disassembler and the machine both work on words, each with a dispatch of its own. To compare the two,
the instruction set is written down once more, as data: an `Instruction` has a text
(`Instruction.text`) and an effect (`Board.perform`), and every word stands for one
(`Instruction.ofWord`). That the text of a word and the effect of a word are those of its instruction is
proved in `Chip8.Proofs.Dispatch`; nothing that runs is defined by this type.
-/

namespace Chip8

/-- The instructions. `x` and `y` name registers, `kk` is an immediate byte, `nnn` an address. -/
inductive Instruction where
  /-- Blank the display. -/
  | clear
  /-- Return from a call. -/
  | ret
  /-- Call of the host, taken as a jump. -/
  | sys (nnn : Fin 4096)
  | jump (nnn : Fin 4096)
  | call (nnn : Fin 4096)
  /-- Skip the next instruction if the register equals the byte; `skipNe` if not. -/
  | skipEq (x : Fin 16) (kk : UInt8)
  | skipNe (x : Fin 16) (kk : UInt8)
  /-- Skip if two registers are equal; `skipNeReg` if not. -/
  | skipEqReg (x y : Fin 16)
  | skipNeReg (x y : Fin 16)
  | load (x : Fin 16) (kk : UInt8)
  | add (x : Fin 16) (kk : UInt8)
  | copy (x y : Fin 16)
  | or (x y : Fin 16)
  | and (x y : Fin 16)
  | xor (x y : Fin 16)
  | addReg (x y : Fin 16)
  | sub (x y : Fin 16)
  /-- Take `x` away from `y`. -/
  | subFrom (x y : Fin 16)
  | shiftRight (x : Fin 16)
  | shiftLeft (x : Fin 16)
  | setIndex (nnn : Fin 4096)
  /-- Jump to an address plus the first register. -/
  | jumpOffset (nnn : Fin 4096)
  /-- A random byte under a mask. -/
  | random (x : Fin 16) (kk : UInt8)
  /-- Draw `n` rows from the index register at the place that two registers name. -/
  | draw (x y n : Fin 16)
  /-- Skip if the key that a register names is down; `skipUp` if it is not. -/
  | skipDown (x : Fin 16)
  | skipUp (x : Fin 16)
  | readDelay (x : Fin 16)
  /-- Wait for a key and put it into a register. -/
  | awaitKey (x : Fin 16)
  | setDelay (x : Fin 16)
  | setSound (x : Fin 16)
  | addIndex (x : Fin 16)
  /-- Point the index register at the glyph of a digit. -/
  | glyph (x : Fin 16)
  /-- Store the three decimal digits of a register. -/
  | storeDigits (x : Fin 16)
  /-- Store the registers up to `x`. -/
  | store (x : Fin 16)
  /-- Fill the registers up to `x` from memory. -/
  | fill (x : Fin 16)
  /-- No instruction. -/
  | unrecognized (word : Word)
  deriving DecidableEq, Repr

/-- The instruction of a word `8xyn`, by the last nibble. -/
def Instruction.arithmetic (w : Word) : Instruction :=
  let x := Word.x w
  let y := Word.y w
  match (Word.n w).val with
  | 0x0 => .copy x y
  | 0x1 => .or x y
  | 0x2 => .and x y
  | 0x3 => .xor x y
  | 0x4 => .addReg x y
  | 0x5 => .sub x y
  | 0x6 => .shiftRight x
  | 0x7 => .subFrom x y
  | 0xE => .shiftLeft x
  | _ => .unrecognized w

/-- The instruction of a word `Fxkk`, by the low byte. -/
def Instruction.peripheral (w : Word) : Instruction :=
  let x := Word.x w
  match w.toNat % 256 with
  | 0x07 => .readDelay x
  | 0x0A => .awaitKey x
  | 0x15 => .setDelay x
  | 0x18 => .setSound x
  | 0x1E => .addIndex x
  | 0x29 => .glyph x
  | 0x33 => .storeDigits x
  | 0x55 => .store x
  | 0x65 => .fill x
  | _ => .unrecognized w

/-- The instruction that a word is. Words that are none keep their number, since a fault reports it. -/
def Instruction.ofWord (w : Word) : Instruction :=
  let x := Word.x w
  let y := Word.y w
  let kk := Word.kk w
  let nnn := Word.address w
  match Word.family w with
  | 0x0 => if w = 0x00E0 then .clear else if w = 0x00EE then .ret else .sys nnn
  | 0x1 => .jump nnn
  | 0x2 => .call nnn
  | 0x3 => .skipEq x kk
  | 0x4 => .skipNe x kk
  | 0x5 => if (Word.n w).val = 0 then .skipEqReg x y else .unrecognized w
  | 0x6 => .load x kk
  | 0x7 => .add x kk
  | 0x8 => .arithmetic w
  | 0x9 => if (Word.n w).val = 0 then .skipNeReg x y else .unrecognized w
  | 0xA => .setIndex nnn
  | 0xB => .jumpOffset nnn
  | 0xC => .random x kk
  | 0xD => .draw x y (Word.n w)
  | 0xE =>
    if w.toNat % 256 = 0x9E then .skipDown x
    else if w.toNat % 256 = 0xA1 then .skipUp x
    else .unrecognized w
  | _ => .peripheral w

namespace Instruction

open Assembly in
/-- The text of an instruction. -/
def text : Instruction → String
  | clear => "CLS"
  | ret => "RET"
  | sys nnn => "SYS " ++ addressText nnn
  | jump nnn => "JMP " ++ addressText nnn
  | call nnn => "CALL " ++ addressText nnn
  | skipEq x kk => twoOperands "SE" (registerName x) (byteText kk)
  | skipNe x kk => twoOperands "SNE" (registerName x) (byteText kk)
  | skipEqReg x y => twoOperands "SE" (registerName x) (registerName y)
  | skipNeReg x y => twoOperands "SNE" (registerName x) (registerName y)
  | load x kk => twoOperands "LD" (registerName x) (byteText kk)
  | add x kk => twoOperands "ADD" (registerName x) (byteText kk)
  | copy x y => twoOperands "LD" (registerName x) (registerName y)
  | or x y => twoOperands "OR" (registerName x) (registerName y)
  | and x y => twoOperands "AND" (registerName x) (registerName y)
  | xor x y => twoOperands "XOR" (registerName x) (registerName y)
  | addReg x y => twoOperands "ADD" (registerName x) (registerName y)
  | sub x y => twoOperands "SUB" (registerName x) (registerName y)
  | subFrom x y => twoOperands "SUBN" (registerName x) (registerName y)
  | shiftRight x => "SHR " ++ registerName x
  | shiftLeft x => "SHL " ++ registerName x
  | setIndex nnn => twoOperands "LD" "I" (addressText nnn)
  | jumpOffset nnn => twoOperands "JP" "V0" (addressText nnn)
  | random x kk => twoOperands "RND" (registerName x) (byteText kk)
  | draw x y n =>
    twoOperands "DRW" (registerName x) (registerName y) ++ ", " ++ Text.hexLiteral n.val
  | skipDown x => "SKP " ++ registerName x
  | skipUp x => "SKNP " ++ registerName x
  | readDelay x => twoOperands "LD" (registerName x) "DT"
  | awaitKey x => twoOperands "LD" (registerName x) "K"
  | setDelay x => twoOperands "LD" "DT" (registerName x)
  | setSound x => twoOperands "LD" "ST" (registerName x)
  | addIndex x => twoOperands "ADD" "I" (registerName x)
  | glyph x => twoOperands "LD" "F" (registerName x)
  | storeDigits x => twoOperands "LD" "B" (registerName x)
  | store x => twoOperands "LD" "[I]" (registerName x)
  | fill x => twoOperands "LD" (registerName x) "[I]"
  | unrecognized _ => unknownText

end Instruction

namespace Board

variable {s : Size}

/-- What an instruction does to a board, once its word is noted. -/
def perform (strict : Bool) (noise : Nat → UInt8) : Instruction → Act (Board s) Effect
  | .clear => clear
  | .ret => ret
  | .sys nnn => onRegs (·.jump nnn.val)
  | .jump nnn => onRegs (·.jump nnn.val)
  | .call nnn => call nnn
  | .skipEq x kk => onRegs fun r => r.skipIf (r.get x == kk)
  | .skipNe x kk => onRegs fun r => r.skipIf (r.get x != kk)
  | .skipEqReg x y => onRegs fun r => r.skipIf (r.get x == r.get y)
  | .skipNeReg x y => onRegs fun r => r.skipIf (r.get x != r.get y)
  | .load x kk => onRegs (·.put x kk)
  | .add x kk => onRegs fun r => r.put x (r.get x + kk)
  | .copy x y => onRegs fun r => r.put x (r.get y)
  | .or x y => onRegs fun r => r.put x (r.get x ||| r.get y)
  | .and x y => onRegs fun r => r.put x (r.get x &&& r.get y)
  | .xor x y => onRegs fun r => r.put x (r.get x ^^^ r.get y)
  | .addReg x y => onRegs (·.addReg x y)
  | .sub x y => onRegs (·.sub x y)
  | .subFrom x y => onRegs (·.subFrom x y)
  | .shiftRight x => onRegs (·.shiftRight x)
  | .shiftLeft x => onRegs (·.shiftLeft x)
  | .setIndex nnn => onRegs fun r => { r with i := nnn.val }
  | .jumpOffset nnn => onRegs fun r => r.jump (nnn.val + (r.get Registers.offset).toNat)
  | .random x kk => random noise x kk
  | .draw x y n => drawSprite x y n
  | .skipDown x => skipDown x
  | .skipUp x => skipUp x
  | .readDelay x => onRegs fun r => r.put x (UInt8.ofNat (r.delay % 256).toNat)
  | .awaitKey x => return .awaitKey x
  | .setDelay x => onRegs fun r => { r with delay := (r.get x).toNat }
  | .setSound x => setSound x
  | .addIndex x => onRegs fun r => r.moveIndex (r.get x).toNat
  | .glyph x => glyph x
  | .storeDigits x => storeDigits x
  | .store x => store x
  | .fill x => fill x
  | .unrecognized word => refuse strict word

end Board

end Chip8
