import Chip8.Machine.Basic
/-!
What a host does to a machine between steps: build it, load a program, reset it, press keys.
-/

namespace Chip8.Machine

variable {κ τ : Type} {s : Size} [Seconds τ] [Clock κ τ]

/-- Bring the machine to its state at power-on, with the program in memory. The keys, the pause and
    the random bytes are not touched. -/
def reset (host : Host s) : Act (Machine κ τ s) Unit := do
  -- this never fails, since a program fits by its type
  let memory ← Act.ofExcept .fault (Memory.blank.load (← get).program.bytes)
  modify fun m =>
    { m with board := { m.board with memory, regs := .initial, display := .blank } }
  setTone host false
  modify fun m => { m with
    wait := none
    halted := false
    instructions := 0
    ticks := 0
    traces := [] }
  modify startCadences
  -- a pause outlasts the reset, with the new time standing still
  if (← get).paused then modify pauseCadences
  modify fun m => m.note .debug
    s!"Reset: PC=${Text.hex 4 m.board.regs.pc}, program {m.program.size} bytes"

/-- Install a program and reset the machine to run it. -/
def load (host : Host s) (program : Program) : Act (Machine κ τ s) Unit := do
  modify fun m => { m with program }
  reset host
  modify (note .info s!"Loaded {program.title} ({program.size} bytes)")

/-- Reset the registers and nothing else. -/
def resetRegisters (m : Machine κ τ s) : Machine κ τ s := m.mapRegs fun _ => .initial

/-- Set one key; whether it is down must be said. -/
def inputKey (key : Int) (down : Option Bool) : Act (Machine κ τ s) Unit := do
  match down with
  | none => throw (.misuse .keyStateMissing)
  | some down =>
    let keypad ← Act.ofExcept .misuse ((← get).board.keypad.set key down)
    modify fun m => { m with board := { m.board with keypad } }

/-- Set several keys at once. -/
def inputKeys (changes : List (Int × Bool)) : Act (Machine κ τ s) Unit := do
  let keypad ← Act.ofExcept .misuse ((← get).board.keypad.update changes)
  modify fun m => { m with board := { m.board with keypad } }

/-- How a machine is built. -/
structure Settings (τ : Type) where
  /-- Instructions per second; a rate that is not positive means as fast as the run loop goes. -/
  pace : Rate τ := .whole 0
  strict : Bool := false

/-- A machine without a program, after its first reset, which no listener hears. -/
def create (settings : Settings τ) (clock : κ) (noise : Nat → UInt8) : Machine κ τ s :=
  let m : Machine κ τ s := {
    board := .initial
    program := .empty
    strict := settings.strict
    tracing := false
    wait := none
    halted := false
    paused := false
    instructions := 0
    ticks := 0
    traces := []
    timerCadence := ⟨.whole timerFrequency, .fresh, 0⟩
    pace := Cadence.create? settings.pace
    clock
    noise
    heard := []
    log := []
    signal := {} }
  ((reset Host.inert).exec m).2

end Chip8.Machine
