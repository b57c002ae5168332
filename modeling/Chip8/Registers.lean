import Chip8.Axis
import Chip8.Word
/-!
The registers. Byte registers hold bytes and stack cells sixteen bits; the index register, the
program counter, the stack pointer and the two timers hold whole numbers, which the instruction set
keeps small but a debugger may set to anything.
-/

namespace Chip8

/-- The register file and the call stack. -/
structure Registers where
  v : Vector UInt8 16
  i : Int
  pc : Int
  sp : Int
  stack : Vector UInt16 16
  delay : Int
  sound : Int
  /-- The word that was executed last. -/
  lastWord : Word
  deriving DecidableEq

namespace Registers

/-- The register that a jump may be offset by. -/
def offset : Fin 16 := 0

/-- The flag register. -/
def flag : Fin 16 := 15

/-- All zero, except the program counter, which points at the program. -/
def initial : Registers where
  v := Vector.replicate 16 0
  i := 0
  pc := 0x200
  sp := 0
  stack := Vector.replicate 16 0
  delay := 0
  sound := 0
  lastWord := 0

/-- The value of a byte register. -/
def get (r : Registers) (x : Fin 16) : UInt8 := getElem r.v x.val (lt_sixteen x)

/-- Put a byte into a register. -/
def put (r : Registers) (x : Fin 16) (b : UInt8) : Registers :=
  { r with v := r.v.set x.val b (lt_sixteen x) }

/-- Go on at an address. -/
def jump (r : Registers) (address : Int) : Registers := { r with pc := address }

/-- Go past the next instruction if the condition holds. -/
def skipIf (r : Registers) (condition : Bool) : Registers :=
  if condition then { r with pc := (r.pc + 2) % 65536 } else r

/-- Move the index register on within sixteen bits. -/
def moveIndex (r : Registers) (distance : Int) : Registers :=
  { r with i := (r.i + distance) % 65536 }

/-- Set a stack cell by number. -/
def pokeStack (r : Registers) (index value : Int) : Except Misuse Registers := do
  let k ← cellAt 16 index
  let value ← checkValue 16 value
  return { r with stack := r.stack.set k.val (UInt16.ofNat value) (lt_sixteen k) }

/-- Put a return address on the stack. Nothing changes if that fails. -/
def push (r : Registers) (address : Int) : Except Failure Registers :=
  if 16 ≤ r.sp then .error (.fault (.stackOverflow (address - 2)))
  else
    match r.pokeStack r.sp address with
    | .error e => .error (.misuse e)
    | .ok r => .ok { r with sp := r.sp + 1 }

/-- Take the last return address off the stack. The stack pointer moves even if it points at no
    cell then. -/
def pop (r : Registers) : Except Failure Int × Registers :=
  if r.sp = 0 then (.error (.fault .stackUnderflow), r)
  else
    -- a pointer that a debugger set may be far off the stack, before or after this
    let r := { r with sp := r.sp - 1 }
    match cellAt 16 r.sp with
    | .error e => (.error (.misuse e), r)
    | .ok k => (.ok (getElem r.stack k.val (lt_sixteen k)).toNat, r)

/-! ## Arithmetic

Addition stores its result first and the carry second. The others store the flag first, so that the
flag register as an operand already holds it. -/

/-- Add one register to another. -/
def addReg (r : Registers) (x y : Fin 16) : Registers :=
  let carry := decide (255 < (r.get x).toNat + (r.get y).toNat)
  (r.put x (r.get x + r.get y)).put flag carry.toUInt8

/-- Take `y` away from `x`; the flag says that nothing was borrowed. -/
def sub (r : Registers) (x y : Fin 16) : Registers :=
  let r := r.put flag (decide (r.get y < r.get x)).toUInt8
  r.put x (r.get x - r.get y)

/-- Take `x` away from `y` into `x`. -/
def subFrom (r : Registers) (x y : Fin 16) : Registers :=
  let r := r.put flag (decide (r.get x < r.get y)).toUInt8
  r.put x (r.get y - r.get x)

/-- Halve a register; the flag is the bit that falls out. -/
def shiftRight (r : Registers) (x : Fin 16) : Registers :=
  let r := r.put flag (r.get x &&& 1)
  r.put x (r.get x >>> 1)

/-- Double a register; the flag is the bit that falls out. -/
def shiftLeft (r : Registers) (x : Fin 16) : Registers :=
  let r := r.put flag (r.get x >>> 7)
  r.put x (r.get x <<< 1)

/-! ## A debugger's access -/

/-- Set a byte register by number. -/
def poke (r : Registers) (index value : Int) : Except Misuse Registers := do
  let k ← cellAt 16 index
  let value ← checkValue 8 value
  return r.put k (UInt8.ofNat value)

/-- Set a byte register; with `true` for its number all are set, with `false` none is. -/
def pokeNamed (r : Registers) (index : Whole) (value : Int) : Except Misuse Registers :=
  match index with
  | .number k => r.poke k value
  | .flag all => do
    let value ← checkValue 8 value
    return if all then { r with v := Vector.replicate 16 (UInt8.ofNat value) } else r

/-- Set a stack cell; with `true` for its number all are set, with `false` none is. -/
def pokeStackNamed (r : Registers) (index : Whole) (value : Int) : Except Misuse Registers :=
  match index with
  | .number k => r.pokeStack k value
  | .flag all => do
    let value ← checkValue 16 value
    return if all then { r with stack := Vector.replicate 16 (UInt16.ofNat value) } else r

/-- The stack cells below the stack pointer; a negative pointer counts from the far end. -/
def frames (r : Registers) : List UInt16 :=
  let count := if r.sp < 0 then r.sp + 16 else r.sp
  r.stack.toList.take count.toNat

/-! ## Reading back -/

@[simp] theorem get_put_self (r : Registers) (x : Fin 16) (b : UInt8) : (r.put x b).get x = b := by
  simp [get, put]

theorem get_put_ne (r : Registers) {x y : Fin 16} (h : x ≠ y) (b : UInt8) :
    (r.put x b).get y = r.get y := by
  have : x.val ≠ y.val := fun e => h (Fin.ext e)
  simp [get, put, this]

end Registers

end Chip8
