import Chip8.Stopwatch
/-!
A cadence turns the time on a stopwatch into whole periods of a fixed rate. Each poll answers the
periods completed since the poll before, so that polling often gives mostly zeros and polling
seldom gives the backlog, and no period is lost or given twice.
-/

namespace Chip8

/-- A rate, the running time, and how many periods of it were given out. -/
structure Cadence (τ : Type) where
  rate : Rate τ
  watch : Stopwatch τ
  consumed : Int

namespace Cadence

variable {κ τ : Type} [Seconds τ] [Clock κ τ]

/-- A cadence that was not started, if the rate can be kept. -/
def create? (rate : Rate τ) : Option (Cadence τ) :=
  if Seconds.isPositive rate then some ⟨rate, .fresh, 0⟩ else none

/-- Start over, dropping any backlog. -/
def start (c : Cadence τ) (clock : κ) : Cadence τ × κ :=
  let (watch, clock) := c.watch.restart clock
  ({ c with watch, consumed := 0 }, clock)

/-- Let the running time stand still. -/
def pause (c : Cadence τ) (clock : κ) : Cadence τ × κ :=
  let (watch, clock) := c.watch.stop clock
  ({ c with watch }, clock)

/-- Let the running time go on. -/
def resume (c : Cadence τ) (clock : κ) : Cadence τ × κ :=
  let (watch, clock) := c.watch.start clock
  ({ c with watch }, clock)

/-- The periods completed since the last poll, never fewer than none. A poll without a value leaves
    the count as it was. -/
def due (c : Cadence τ) (clock : κ) : Except PeriodError (Int × Cadence τ) × κ :=
  let (elapsed, clock) := c.watch.elapsed clock
  match Seconds.periods elapsed c.rate with
  | .error e => (.error e, clock)
  -- the count follows the total also where that went down, so the answer is cut off at zero
  | .ok total => (.ok (max (total - c.consumed) 0, { c with consumed := total }), clock)

end Cadence

/-! ## Text -/

/-- What is said about a rate that cannot be kept. -/
def Rate.notPositive (rate : Rate Float) : String :=
  "Cadence frequency must be positive, got " ++ rate.text

/-- One line about a cadence and its running time. A rate beyond all doubles has no line, and then the
    clock is not read. -/
def Cadence.describe {κ : Type} [Clock κ Float] (c : Cadence Float) (clock : κ) :
    Except PeriodError String × κ :=
  match c.rate.brief with
  | .error e => (.error e, clock)
  | .ok rate =>
    let (elapsed, clock) := c.watch.elapsed clock
    (.ok s!"<FixedRateCadence {rate}Hz consumed={c.consumed} {Decimal.shortest elapsed}>", clock)

end Chip8
