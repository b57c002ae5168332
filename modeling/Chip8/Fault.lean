import Chip8.Text.Hex
/-!
Machine faults: the ways in which an instruction, or the loading of an image, can go wrong.
A fault that strikes a running machine stops it (`Halt`), with the place where it happened.
-/

namespace Chip8

/-- What went wrong in the machine. -/
inductive Fault where
  /-- A cell outside the 4096 addressable ones. -/
  | addressOutOfRange (address : Int)
  /-- A program image of `size` bytes where only `limit` fit. -/
  | programTooLarge (size limit : Nat)
  /-- A call from address `caller` with every frame of the stack in use. -/
  | stackOverflow (caller : Int)
  /-- A return with no frame in use. -/
  | stackUnderflow
  /-- A value that has no glyph in the font. -/
  | invalidDigit (digit : Int)
  /-- A register that names no key of the pad. -/
  | invalidKey (key : Nat)
  /-- A word that is no instruction, where those are not ignored. -/
  | unrecognized (word : UInt16)
  deriving DecidableEq, Repr

namespace Fault

/-- The kind of a fault, as it is named in log lines. -/
def name : Fault → String
  | addressOutOfRange _ => "OutOfRangeAddress"
  | programTooLarge _ _ => "ProgramTooLarge"
  | stackOverflow _ => "StackOverflow"
  | stackUnderflow => "StackUnderflow"
  | invalidDigit _ => "InvalidDigit"
  | invalidKey _ => "InvalidKey"
  | unrecognized _ => "UnrecognizedOpcode"

/-- What a fault says about itself. -/
def message : Fault → String
  | addressOutOfRange address => s!"Address ${Text.hex 4 address} is outside $0000-$0FFF"
  | programTooLarge size limit =>
    s!"Program image of {size} bytes exceeds the {limit} bytes available"
  | stackOverflow caller => s!"Call stack full (16 frames) calling from ${Text.hex 4 caller}"
  | stackUnderflow => "Return with an empty call stack"
  | invalidDigit digit => s!"No font glyph for value ${Text.hex 2 digit} (expected $00-$0F)"
  | invalidKey key => s!"Key index ${Text.hex 2 key} is outside the 16-key keypad"
  | unrecognized word => s!"Unrecognized instruction ${Text.hex 4 word.toNat}"

end Fault

/-- A fault that halted the machine, with the address of the instruction and its word; there is
    no word if reading the word was what failed. -/
structure Halt where
  fault : Fault
  pc : Int
  word : Option UInt16
  deriving DecidableEq, Repr

/-- The full text of a halt: kind, place, word, cause. -/
def Halt.message (h : Halt) : String :=
  let word := match h.word with
    | some w => "$" ++ Text.hex 4 w.toNat
    | none => "<fetch failed>"
  s!"{h.fault.name} at PC=${Text.hex 4 h.pc} ({word}): {h.fault.message}"

end Chip8
