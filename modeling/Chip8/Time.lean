import Chip8.Decimal.Print
/-!
Time as the machine sees it. `Seconds` is the arithmetic of a clock's readings, `Clock` a source of
readings, `Rate` a number of periods per second. The machine is written over any such arithmetic:
it runs on doubles, and it can be reasoned about over exact numbers.
-/

namespace Chip8

/-- Periods per second, as it was given: a whole number, a reading of the clock's kind, or a truth
    value, which counts as one or none. -/
inductive Rate (τ : Type) where
  | whole (n : Int)
  | real (x : τ)
  | flag (b : Bool)

/-- Why a count of periods has no value. -/
inductive PeriodError where
  /-- The rate is a whole number beyond every reading. -/
  | rateTooLarge
  /-- The product of time and rate is infinite. -/
  | infinite
  /-- The product is not a number. -/
  | notANumber
  deriving DecidableEq, Repr

/-- What a missing count says about itself. -/
def PeriodError.message : PeriodError → String
  | rateTooLarge => "int too large to convert to float"
  | infinite => "cannot convert float infinity to integer"
  | notANumber => "cannot convert float NaN to integer"

/-- Readings of a clock in seconds, and how many whole periods fit into a time. -/
class Seconds (τ : Type) where
  zero : τ
  add : τ → τ → τ
  sub : τ → τ → τ
  /-- The rate is one that can be kept: more than no period per second. -/
  isPositive : Rate τ → Bool
  /-- The product of a time and a rate, rounded toward zero. -/
  periods : τ → Rate τ → Except PeriodError Int

/-- A source of readings: asking it gives the time and the source of the later readings. -/
class Clock (κ : Type) (τ : outParam Type) where
  read : κ → τ × κ

/-- A clock set by hand: each reading gives `now` and then moves on by `step`; `reads` counts the
    readings. -/
structure ManualClock (τ : Type) where
  now : τ
  step : τ
  reads : Nat := 0

namespace ManualClock

variable {τ : Type} [Seconds τ]

/-- One reading. -/
def read (c : ManualClock τ) : τ × ManualClock τ :=
  (c.now, { c with now := Seconds.add c.now c.step, reads := c.reads + 1 })

/-- Let `dt` seconds pass. -/
def advance (dt : τ) (c : ManualClock τ) : ManualClock τ :=
  { c with now := Seconds.add c.now dt }

/-- A clock set by hand is a source of readings. -/
instance : Clock (ManualClock τ) τ := ⟨read⟩

end ManualClock

/-! ## Doubles -/

/-- The nearest double to a whole number, unless it is beyond all of them. -/
def floatOfInt (n : Int) : Except PeriodError Float :=
  let x := Decimal.toFloat (n < 0) n.natAbs 0
  match Decimal.classify x with
  | .finite _ => .ok x
  | _ => .error .rateTooLarge

/-- A double rounded toward zero. -/
def truncateFloat (x : Float) : Except PeriodError Int :=
  match Decimal.classify x with
  | .finite b => .ok b.truncate
  | .infinite _ => .error .infinite
  | .notANumber => .error .notANumber

/-- The rate as a double. -/
def Rate.toFloat : Rate Float → Except PeriodError Float
  | .whole n => floatOfInt n
  | .real x => .ok x
  | .flag b => .ok (if b then 1.0 else 0.0)

/-- Readings that are doubles; a rate that is no number counts as one that can be kept. -/
instance : Seconds Float where
  zero := 0.0
  add := (· + ·)
  sub := (· - ·)
  isPositive
    | .whole n => 0 < n
    | .real x => !(x ≤ 0.0)
    | .flag b => b
  periods elapsed rate := do truncateFloat (elapsed * (← rate.toFloat))

/-- The rate as it was given. -/
def Rate.text : Rate Float → String
  | .whole n => toString n
  | .real x => Decimal.shortest x
  | .flag b => if b then "True" else "False"

/-- The rate to six significant digits. -/
def Rate.brief (rate : Rate Float) : Except PeriodError String :=
  Decimal.general <$> rate.toFloat

end Chip8
