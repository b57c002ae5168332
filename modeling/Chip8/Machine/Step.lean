import Chip8.Machine.Control
/-!
One step of the machine: the timers catch up with the clock, and then either one instruction runs
or, while a key is awaited, the keys are looked at. A fault halts the machine where it stands.
-/

namespace Chip8.Machine

variable {κ τ : Type} {s : Size} [Seconds τ] [Clock κ τ]

/-- One timer period: the sound timer goes down and the tone follows it, then the delay timer. -/
def tick (host : Host s) : Act (Machine κ τ s) Unit := do
  let sound := (← get).board.regs.sound
  if 0 < sound then
    modify (mapRegs fun r => { r with sound := sound - 1 })
    setTone host (decide (0 < sound - 1))
  else
    -- a tone that sounds although the timer has run out goes off as well
    setTone host false
  modify (mapRegs fun r => if 0 < r.delay then { r with delay := r.delay - 1 } else r)
  modify fun m => { m with ticks := m.ticks + 1 }

/-- Several timer periods. -/
def tickTimes (host : Host s) : Nat → Act (Machine κ τ s) Unit
  | 0 => return ()
  | n + 1 => do
    tick host
    tickTimes host n

/-- The periods due on a cadence; it and the clock are moved on. -/
def pollTimer : Act (Machine κ τ s) Int := do
  let m ← get
  let (answer, clock) := m.timerCadence.due m.clock
  -- the clock was read even if the periods have no number
  modify fun m => { m with clock }
  let (due, timerCadence) ← Act.ofExcept .time answer
  modify fun m => { m with timerCadence }
  return due

/-- Let the timers catch up with the clock. -/
def serviceTimers (host : Host s) : Act (Machine κ τ s) Unit := do
  let due ← pollTimer
  tickTimes host due.toNat

/-- Look for a key to put into register `x`; with none down the wait goes on. -/
def pollKeys (host : Host s) (x : Fin 16) : Act (Machine κ τ s) Unit := do
  match (← get).board.keypad.first? with
  | none => return ()
  | some key =>
    modify (mapRegs (·.put x (UInt8.ofNat key.val)))
    modify fun m => { m with wait := none }
    -- listeners are told last, of a machine that no longer waits
    emit host (.keyResume x key)

/-- Halt with a fault. -/
def haltWith {α : Type} (fault : Fault) (pc : Int) (word : Option Word) :
    Act (Machine κ τ s) α := do
  let halt : Halt := ⟨fault, pc, word⟩
  modify fun m => ({ m with halted := true }).note .error s!"Machine halted: {halt.message}"
  throw (.halt halt)

/-- Keep a trace entry, dropping the oldest beyond the capacity, and let the host hear of it. -/
def traceWord (host : Host s) (pc : Int) (word : Word) : Act (Machine κ τ s) Unit := do
  let entry := TraceEntry.of pc word (← get).board.regs
  modify fun m => { m with traces := (entry :: m.traces).take traceCapacity }
  emit host (.traced entry)

/-- Execute a word. -/
def executeWord (host : Host s) (word : Word) : Act (Machine κ τ s) Unit := do
  let m ← get
  deliver host (← onBoard (Board.execute m.strict m.noise word))

/-- Execute a number, which must fit a word. -/
def execute (host : Host s) (word : Int) : Act (Machine κ τ s) Unit := do
  executeWord host (← Act.ofExcept .misuse (Word.ofInt? word))

/-- Tell the host about a finished picture, if there is one. -/
def announceFrame (host : Host s) : Act (Machine κ τ s) Unit := do
  let (ready, display) := (← get).board.display.takeFrameReady
  modify fun m => { m with board := { m.board with display } }
  if ready then emit host (.frameComplete display.grid)

/-- Fetch, trace and execute one instruction. -/
def runInstruction (host : Host s) : Act (Machine κ τ s) Unit := do
  let pc := (← get).board.regs.pc
  -- a halt names the place of the word, and the fetch has moved the counter on by then
  let word ← Act.onFault (onBoard Board.fetch) fun f => haltWith f pc none
  Act.onFault
    (do
      if (← get).tracing then traceWord host pc word
      executeWord host word)
    -- only faults halt the machine; what a listener throws goes through as it is
    fun f => haltWith f pc (some word)
  modify fun m => { m with instructions := m.instructions + 1 }
  announceFrame host

/-- One step. A halted machine does nothing and reads no clock. -/
def step (host : Host s) : Act (Machine κ τ s) Unit := do
  if (← get).halted then return ()
  serviceTimers host
  match (← get).wait with
  | some x => pollKeys host x
  | none => runInstruction host

/-- Up to `n` steps; the first failure ends them. -/
def stepTimes (host : Host s) : Nat → Act (Machine κ τ s) Unit
  | 0 => return ()
  | n + 1 => do
    step host
    stepTimes host n

end Chip8.Machine
