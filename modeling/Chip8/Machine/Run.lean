import Chip8.Machine.Step
/-!
The run loop. Before each pass the loop looks at a stop signal; `look` is what happens to the clock
meanwhile, and `looks` is how often the signal says to go on by itself. A pass makes one step, or as
many as are due if the machine is throttled.
-/

namespace Chip8.Machine

variable {κ τ : Type} {s : Size} [Seconds τ] [Clock κ τ]

/-- The most steps that a throttled loop makes up for at once. -/
def maxCatchUp : Nat := 1000

/-- Steps of one burst; a halt ends it. -/
def burst (host : Host s) : Nat → Act (Machine κ τ s) Unit
  | 0 => return ()
  | n + 1 => do
    step host
    if (← get).halted then return ()
    -- a halt is all that is looked for between two steps of a burst, neither the signal nor the pause
    burst host n

/-- The steps due on the pace. -/
def pollPace (pace : Cadence τ) : Act (Machine κ τ s) Int := do
  let (answer, clock) := pace.due (← get).clock
  modify fun m => { m with clock }
  let (due, pace) ← Act.ofExcept .time answer
  modify fun m => { m with pace := some pace }
  return due

/-- One pass of the loop. The answer is whether it did nothing but wait. -/
def pass (host : Host s) : Act (Machine κ τ s) Bool := do
  let m ← get
  if m.paused then return true
  match m.pace with
  | none =>
    step host
    return false
  | some pace =>
    let due ← pollPace pace
    -- with no step due the timers are serviced here, since only a step would service them otherwise
    if due = 0 then
      serviceTimers host
    else
      -- what is beyond the limit is dropped: the poll has counted it as given out
      burst host (min due.toNat maxCatchUp)
    return false

/-- Count a wait on the stop signal. -/
def countWait (m : Machine κ τ s) : Machine κ τ s :=
  { m with signal := { m.signal with waits := m.signal.waits + 1 } }

/-- Use up a look at the stop signal, `looks` being left, and let the clock move. -/
def useLook (look : κ → κ) (looks : Nat) (m : Machine κ τ s) : Machine κ τ s :=
  { m with clock := look m.clock, signal := { m.signal with looks } }

/-- Passes of the loop until it is asked to stop, the machine halts, or the looks are used up. -/
def loop (host : Host s) (look : κ → κ) : Nat → Act (Machine κ τ s) Unit
  | 0 => return ()
  | looks + 1 => do
    if (← get).signal.requested then return ()
    -- looking at the signal may take time
    modify (useLook look looks)
    if (← get).halted then return ()
    if ← pass host then modify countWait
    loop host look looks

/-- Run with a fresh stop signal. How the run ended can be seen from the signal. -/
def run (host : Host s) (look : κ → κ) (looks : Nat) : Act (Machine κ τ s) Unit := do
  modify fun m => { m with signal := { looks } }
  loop host look looks

/-- Run as a worker: a failure is written to the log and answered, not passed on, and the stop
    signal is set in the end whatever happened. -/
def runWorker (host : Host s) (look : κ → κ) (looks : Nat) (m : Machine κ τ s) :
    Option Failure × Machine κ τ s :=
  match (run host look looks).exec m with
  | (.ok _, m) => (none, requestStop m)
  | (.error e, m) => (some e, requestStop (m.note .error "Emulator thread stopped"))

end Chip8.Machine
