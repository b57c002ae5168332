import Chip8.Display
import Chip8.Keypad
import Chip8.Memory
import Chip8.Registers
import Chip8.Tone.Switch
/-!
The parts that instructions act on, and what executing a word does to them.

`Board.dispatch` goes by the first nibble of a word. Families whose words are not all one instruction go
on by the last nibble, by the low byte or by the word as a whole. A word answers with at most one effect
that concerns others: a change of the tone, a wish to wait for a key, or a word that was ignored. The effect
is always the last thing that a word does.
-/

namespace Chip8

/-- What instructions act on. `draws` counts the random bytes taken so far. -/
structure Board (s : Size) where
  regs : Registers
  memory : Memory
  display : Display s
  keypad : Keypad
  /-- Is the tone sounding? -/
  tone : Bool
  draws : Nat
  deriving DecidableEq

/-- What an instruction has to tell others. -/
inductive Effect where
  /-- Nothing. -/
  | quiet
  /-- The tone went on or off. -/
  | tone (on : Bool)
  /-- The next key is to be put into a register. -/
  | awaitKey (x : Fin 16)
  /-- The word was no instruction and was ignored. -/
  | ignored (word : Word)
  deriving DecidableEq, Repr

namespace Board

variable {s : Size}

/-- The board before a program is loaded. -/
def initial : Board s where
  regs := .initial
  memory := .blank
  display := .blank
  keypad := .released
  tone := false
  draws := 0

/-- Change the registers. -/
def mapRegs (f : Registers → Registers) (b : Board s) : Board s := { b with regs := f b.regs }

/-- An instruction that changes registers only. -/
def onRegs (f : Registers → Registers) : Act (Board s) Effect := do
  modify (mapRegs f)
  return .quiet

/-- Set the tone; the effect is heard if that changes it. -/
def setTone (on : Bool) : Act (Board s) Effect := do
  match Tone.transition (← get).tone on with
  | none => return .quiet
  | some heard =>
    modify fun b => { b with tone := on }
    return .tone heard

/-- Read the byte at an address. -/
def readByte (address : Int) : Act (Board s) UInt8 := do
  Act.ofExcept .fault ((← get).memory.read address)

/-- Put a byte at an address. -/
def putByte (address : Int) (value : UInt8) : Act (Board s) Unit := do
  let memory ← Act.ofExcept .fault ((← get).memory.put address value)
  modify fun b => { b with memory }

/-- Read the word at the program counter and move the counter past it. -/
def fetch : Act (Board s) Word := do
  let pc := (← get).regs.pc
  let hi ← readByte pc
  let lo ← readByte (pc + 1)
  modify (mapRegs fun r => { r with pc := (pc + 2) % 65536 })
  return Word.ofBytes hi lo

/-- Store the registers one after another at the index register, which moves on after each. -/
def storeAll : List (Fin 16) → Act (Board s) Unit
  | [] => return ()
  | x :: xs => do
    let r := (← get).regs
    putByte r.i (r.get x)
    -- the index register moves byte by byte, so a fault leaves it behind the last byte that was stored
    modify (mapRegs (·.moveIndex 1))
    storeAll xs

/-- Fill the registers one after another from the index register, which moves on after each. -/
def fillAll : List (Fin 16) → Act (Board s) Unit
  | [] => return ()
  | x :: xs => do
    let b ← readByte (← get).regs.i
    modify (mapRegs fun r => (r.put x b).moveIndex 1)
    fillAll xs

/-- The registers from the first to `x`. -/
def upTo (x : Fin 16) : List (Fin 16) := (List.finRange 16).take (x.val + 1)

/-- The key that a register names. -/
def namedKey (x : Fin 16) : Act (Board s) (Fin 16) := do
  let value := ((← get).regs.get x).toNat
  if h : value < 16 then return ⟨value, h⟩ else throw (.fault (.invalidKey value))

/-- Draw `n` rows at the place that two registers name; the flag says that a lit pixel went out. -/
def drawSprite (x y n : Fin 16) : Act (Board s) Effect := do
  let b ← get
  let rows ← Act.ofExcept .fault (b.memory.readBlock b.regs.i n.val)
  -- rows are read as a whole before the first pixel is turned over
  let (answer, display) := b.display.draw (b.regs.get x).toNat (b.regs.get y).toNat
    (rows.map fun row => (row.toNat : Int))
  modify fun b => { b with display }
  let hit ← Act.ofExcept .misuse answer
  onRegs (·.put Registers.flag hit.toUInt8)

/-! ### Single instructions -/

/-- Blank the display. -/
def clear : Act (Board s) Effect := do
  modify fun b => { b with display := b.display.clear }
  return .quiet

/-- Return from a call: go on where the last frame says. -/
def ret : Act (Board s) Effect := do
  let (answer, regs) := (← get).regs.pop
  modify fun b => { b with regs }
  match answer with
  | .ok address => onRegs (·.jump address)
  | .error e => throw e

/-- Call what stands at an address: push the program counter, then jump. -/
def call (nnn : Fin 4096) : Act (Board s) Effect := do
  let r := (← get).regs
  match r.push r.pc with
  | .ok r => onRegs fun _ => r.jump nnn.val
  | .error e => throw e

/-- Put a random byte under a mask into a register. `noise k` is the byte of the `k`-th draw. -/
def random (noise : Nat → UInt8) (x : Fin 16) (kk : UInt8) : Act (Board s) Effect := do
  let byte := noise (← get).draws
  modify fun b => { b with draws := b.draws + 1 }
  onRegs (·.put x (byte &&& kk))

/-- Skip the next instruction if the key that a register names is down. -/
def skipDown (x : Fin 16) : Act (Board s) Effect := do
  let key ← namedKey x
  let down := getElem (← get).keypad.keys key.val (lt_sixteen key)
  onRegs (·.skipIf down)

/-- Skip the next instruction if the key that a register names is up. -/
def skipUp (x : Fin 16) : Act (Board s) Effect := do
  let key ← namedKey x
  let down := getElem (← get).keypad.keys key.val (lt_sixteen key)
  onRegs (·.skipIf (!down))

/-- Put a register into the sound timer. The tone sounds from now on if that is not zero. -/
def setSound (x : Fin 16) : Act (Board s) Effect := do
  modify (mapRegs fun r => { r with sound := (r.get x).toNat })
  setTone (decide (0 < (← get).regs.sound))

/-- Point the index register at the glyph of the digit in a register. -/
def glyph (x : Fin 16) : Act (Board s) Effect := do
  let address ← Act.ofExcept .fault (glyphAddress ((← get).regs.get x).toNat)
  onRegs fun r => { r with i := address }

/-- Store the three decimal digits of a register at the index register, which stays. -/
def storeDigits (x : Fin 16) : Act (Board s) Effect := do
  let r := (← get).regs
  let value := r.get x
  putByte r.i (value / 100)
  putByte (r.i + 1) (value / 10 % 10)
  putByte (r.i + 2) (value % 10)
  return .quiet

/-- Store the registers up to `x`. -/
def store (x : Fin 16) : Act (Board s) Effect := do
  storeAll (upTo x)
  return .quiet

/-- Fill the registers up to `x`. -/
def fill (x : Fin 16) : Act (Board s) Effect := do
  fillAll (upTo x)
  return .quiet

/-- A word that is no instruction: a fault for a strict machine, and else ignored. -/
def refuse (strict : Bool) (word : Word) : Act (Board s) Effect :=
  if strict then throw (.fault (.unrecognized word)) else return .ignored word

/-! ### Words -/

/-- The words `0nnn`. All but two of them are calls of the host, which are taken as jumps. -/
def system (w : Word) : Act (Board s) Effect :=
  if w = 0x00E0 then clear
  else if w = 0x00EE then ret
  else onRegs (·.jump w.address.val)

/-- The words `5xyn`: skip if two registers are equal. -/
def skipSame (strict : Bool) (w : Word) : Act (Board s) Effect :=
  if w.n.val ≠ 0 then refuse strict w
  else onRegs fun r => r.skipIf (r.get w.x == r.get w.y)

/-- The words `9xyn`: skip if two registers differ. -/
def skipOther (strict : Bool) (w : Word) : Act (Board s) Effect :=
  if w.n.val ≠ 0 then refuse strict w
  else onRegs fun r => r.skipIf (r.get w.x != r.get w.y)

/-- The words `8xyn`, arithmetic on two registers. -/
def alu (strict : Bool) (w : Word) : Act (Board s) Effect :=
  match w.n.val with
  | 0x0 => onRegs fun r => r.put w.x (r.get w.y)
  | 0x1 => onRegs fun r => r.put w.x (r.get w.x ||| r.get w.y)
  | 0x2 => onRegs fun r => r.put w.x (r.get w.x &&& r.get w.y)
  | 0x3 => onRegs fun r => r.put w.x (r.get w.x ^^^ r.get w.y)
  | 0x4 => onRegs (·.addReg w.x w.y)
  | 0x5 => onRegs (·.sub w.x w.y)
  | 0x6 => onRegs (·.shiftRight w.x)
  | 0x7 => onRegs (·.subFrom w.x w.y)
  | 0xE => onRegs (·.shiftLeft w.x)
  | _ => refuse strict w

/-- The words `Exkk`, which look at a key. -/
def keys (strict : Bool) (w : Word) : Act (Board s) Effect :=
  match w.kk.toNat with
  | 0x9E => skipDown w.x
  | 0xA1 => skipUp w.x
  | _ => refuse strict w

/-- The words `Fxkk`: timers, keys, the index register and transfers. -/
def misc (strict : Bool) (w : Word) : Act (Board s) Effect :=
  match w.kk.toNat with
  -- a register takes the low byte of the delay timer, which is all of it as long as it is within
  -- bounds
  | 0x07 => onRegs fun r => r.put w.x (UInt8.ofNat (r.delay % 256).toNat)
  | 0x0A => return .awaitKey w.x
  | 0x15 => onRegs fun r => { r with delay := (r.get w.x).toNat }
  | 0x18 => setSound w.x
  | 0x1E => onRegs fun r => r.moveIndex (r.get w.x).toNat
  | 0x29 => glyph w.x
  | 0x33 => storeDigits w.x
  | 0x55 => store w.x
  | 0x65 => fill w.x
  | _ => refuse strict w

/-- Do what a word says. `noise k` is the random byte of the `k`-th draw; `strict` makes a fault of a word
    that is no instruction. -/
def dispatch (strict : Bool) (noise : Nat → UInt8) (w : Word) : Act (Board s) Effect :=
  match w.family with
  | 0x0 => system w
  | 0x1 => onRegs (·.jump w.address.val)
  | 0x2 => call w.address
  | 0x3 => onRegs fun r => r.skipIf (r.get w.x == w.kk)
  | 0x4 => onRegs fun r => r.skipIf (r.get w.x != w.kk)
  | 0x5 => skipSame strict w
  | 0x6 => onRegs (·.put w.x w.kk)
  | 0x7 => onRegs fun r => r.put w.x (r.get w.x + w.kk)
  | 0x8 => alu strict w
  | 0x9 => skipOther strict w
  | 0xA => onRegs fun r => { r with i := w.address.val }
  | 0xB => onRegs fun r => r.jump (w.address.val + (r.get Registers.offset).toNat)
  | 0xC => random noise w.x w.kk
  | 0xD => drawSprite w.x w.y w.n
  | 0xE => keys strict w
  | _ => misc strict w

/-- Execute a word: note it as the last one and do what it says. -/
def execute (strict : Bool) (noise : Nat → UInt8) (word : Word) : Act (Board s) Effect := do
  modify (mapRegs fun r => { r with lastWord := word })
  dispatch strict noise word

end Board

end Chip8
