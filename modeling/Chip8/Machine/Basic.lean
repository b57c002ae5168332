import Chip8.Cadence
import Chip8.Event
import Chip8.Program
/-!
The machine: a board, a program, a pending wait for a key, and the two cadences that pace the timers
and the instructions. Everything that it tells its host and its log is kept, the latest first.
-/

namespace Chip8

/-- The timers count down sixty times a second. -/
def timerFrequency : Int := 60

/-- How many trace lines are kept. -/
def traceCapacity : Nat := 2048

/-- The signal that a run loop looks at before each pass: whether it was set, how many looks are
    left that answer "go on", and how often the loop waited on it. -/
structure StopSignal where
  requested : Bool := false
  looks : Nat := 0
  waits : Nat := 0
  deriving DecidableEq, Repr

/-- A machine on a clock `κ` with readings `τ`. -/
structure Machine (κ τ : Type) (s : Size) where
  board : Board s
  program : Program
  /-- Does a word that is no instruction halt the machine? -/
  strict : Bool
  /-- Is every instruction traced? -/
  tracing : Bool
  /-- The register that waits for a key. While there is one, no instruction runs, and the state of the machine
      is "awaiting": it has no state of its own beside this. -/
  wait : Option (Fin 16)
  halted : Bool
  paused : Bool
  /-- Completed instructions. -/
  instructions : Nat
  /-- Timer periods. -/
  ticks : Nat
  /-- The latest trace entries, the last one first. -/
  traces : List TraceEntry
  timerCadence : Cadence τ
  /-- The pace of the instructions; none if they are not throttled. -/
  pace : Option (Cadence τ)
  clock : κ
  /-- The random byte of each draw. -/
  noise : Nat → UInt8
  /-- All events so far, the last one first. -/
  heard : List (Event s)
  /-- All log records so far, the last one first. -/
  log : List LogRecord
  /-- The stop signal of the latest run. -/
  signal : StopSignal

namespace Machine

variable {κ τ : Type} {s : Size} [Seconds τ] [Clock κ τ]

/-- The name of what the machine is doing, read off the register that waits. -/
def status (m : Machine κ τ s) : String := if m.wait.isSome then "AwaitingKey" else "Running"

/-- Write a record. -/
def note (level : Level) (message : String) (m : Machine κ τ s) : Machine κ τ s :=
  { m with log := ⟨level, message⟩ :: m.log }

/-- Change the registers. -/
def mapRegs (f : Registers → Registers) (m : Machine κ τ s) : Machine κ τ s :=
  { m with board := m.board.mapRegs f }

/-- An operation on the board. -/
def onBoard {α : Type} (act : Act (Board s) α) : Act (Machine κ τ s) α := do
  let (answer, board) := act.exec (← get).board
  modify fun m => { m with board }
  Act.ofExcept id answer

/-! ## Pausing -/

/-- Let both cadences stand still. -/
def pauseCadences (m : Machine κ τ s) : Machine κ τ s :=
  let (timerCadence, clock) := m.timerCadence.pause m.clock
  match m.pace with
  | none => { m with timerCadence, clock }
  | some pace =>
    let (pace, clock) := pace.pause clock
    { m with timerCadence, pace := some pace, clock }

/-- Let both cadences go on. -/
def resumeCadences (m : Machine κ τ s) : Machine κ τ s :=
  let (timerCadence, clock) := m.timerCadence.resume m.clock
  match m.pace with
  | none => { m with timerCadence, clock }
  | some pace =>
    let (pace, clock) := pace.resume clock
    { m with timerCadence, pace := some pace, clock }

/-- Start both cadences over. -/
def startCadences (m : Machine κ τ s) : Machine κ τ s :=
  let (timerCadence, clock) := m.timerCadence.start m.clock
  match m.pace with
  | none => { m with timerCadence, clock }
  | some pace =>
    let (pace, clock) := pace.start clock
    { m with timerCadence, pace := some pace, clock }

/-- Stop the time of the machine. -/
def pause (m : Machine κ τ s) : Machine κ τ s :=
  (pauseCadences { m with paused := true }).note .info "Paused"

/-- Let the time of the machine go on. -/
def resume (m : Machine κ τ s) : Machine κ τ s :=
  (resumeCadences { m with paused := false }).note .info "Resumed"

/-! ## Telling listeners -/

/-- Ask the run loop to stop. -/
def requestStop (m : Machine κ τ s) : Machine κ τ s :=
  { m with signal := { m.signal with requested := true } }

/-- Let the host hear an event and react to it. -/
def emit (host : Host s) (event : Event s) : Act (Machine κ τ s) Unit := do
  let reaction := host (← get).heard event
  modify fun m => { m with heard := event :: m.heard, log := reaction.log.reverse ++ m.log }
  if reaction.stop then modify requestStop
  if reaction.pause then modify pause
  if reaction.halt then modify fun m => { m with halted := true }
  if reaction.fail then throw (.listener event.name)

/-- Pass on the effect of an instruction. -/
def deliver (host : Host s) : Effect → Act (Machine κ τ s) Unit
  | .quiet => return ()
  | .tone on => emit host (.tone on)
  | .awaitKey x => do
    modify fun m => { m with wait := some x }
    emit host (.keyWait x)
  | .ignored word =>
    modify (note .debug s!"Ignoring unrecognized instruction ${Text.hex 4 word.toNat}")

/-- Set the tone; listeners hear of it if that changes it. -/
def setTone (host : Host s) (on : Bool) : Act (Machine κ τ s) Unit := do
  deliver host (← onBoard (Board.setTone on))

end Machine

end Chip8
