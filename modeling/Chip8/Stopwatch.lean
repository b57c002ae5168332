import Chip8.Failure
import Chip8.Text.Digit
/-!
A stopwatch that can be paused. It holds the time of its closed intervals and, while it runs, the
reading at which the open one began. It reads its clock only when that changes something or when
the elapsed time of a running watch is asked for.
-/

namespace Chip8

/-- A stopwatch; it is running iff an interval is open. -/
structure Stopwatch (τ : Type) where
  /-- The reading at which the open interval began. -/
  startedAt : Option τ
  /-- The length of the closed intervals together. -/
  accumulated : τ

namespace Stopwatch

variable {κ τ : Type} [Seconds τ] [Clock κ τ]

/-- A watch that has not been started. -/
def fresh : Stopwatch τ := ⟨none, Seconds.zero⟩

/-- Is an interval open? -/
def running (w : Stopwatch τ) : Bool := w.startedAt.isSome

/-- Open an interval, unless one is open. -/
def start (w : Stopwatch τ) (clock : κ) : Stopwatch τ × κ :=
  match w.startedAt with
  | some _ => (w, clock)
  | none =>
    let (now, clock) := Clock.read clock
    ({ w with startedAt := some now }, clock)

/-- Close the open interval, if there is one. -/
def stop (w : Stopwatch τ) (clock : κ) : Stopwatch τ × κ :=
  match w.startedAt with
  | none => (w, clock)
  | some began =>
    let (now, clock) := Clock.read clock
    (⟨none, Seconds.add w.accumulated (Seconds.sub now began)⟩, clock)

/-- The time of all intervals so far. -/
def elapsed (w : Stopwatch τ) (clock : κ) : τ × κ :=
  match w.startedAt with
  | none => (w.accumulated, clock)
  | some began =>
    let (now, clock) := Clock.read clock
    (Seconds.add w.accumulated (Seconds.sub now began), clock)

/-- Forget everything and open an interval. -/
def restart (_ : Stopwatch τ) (clock : κ) : Stopwatch τ × κ := start fresh clock

/-- Stopping a watch that stands still changes nothing and reads no clock. -/
theorem stop_of_not_running (w : Stopwatch τ) (clock : κ) (h : w.running = false) :
    w.stop clock = (w, clock) := by
  rcases w with ⟨_ | _, acc⟩
  · rfl
  · simp [running] at h

end Stopwatch

/-! ## Text -/

namespace Stopwatch

/-- The state of a watch and an elapsed time, to four places. -/
def summary (running : Bool) (elapsed : Float) : String :=
  "Timer(" ++ (if running then "running" else "stopped") ++ ", " ++ Decimal.fixed 4 elapsed ++ "s)"

/-- All that a watch holds. -/
def describe (w : Stopwatch Float) : String :=
  "Timer(running=" ++ (if w.running then "True" else "False") ++
    ", elapsed_time=" ++ Decimal.fixed 6 w.accumulated ++
    ", start_time=" ++ (match w.startedAt with
      | none => "None"
      | some began => Decimal.shortest began) ++ ")"

/-- What is wrong with the text that says how a time is to be written. -/
inductive FormatError where
  /-- A point without a number of places. -/
  | noPlaces
  | tooManyPlaces
  /-- A number of places that no machine word can hold. -/
  | numberTooLong
  | unknown (text : String)
  deriving DecidableEq, Repr

/-- The sentence about it. -/
def FormatError.message : FormatError → String
  | noPlaces => "Format specifier missing precision"
  | tooManyPlaces => "precision too big"
  | numberTooLong => "Too many decimal digits in format string"
  | unknown text => s!"Invalid format specifier '{text}' for object of type 'float'"

/-- The number of places that a text such as `.3f` asks for; an empty one asks for as few digits as
    there can be. -/
def placesOf (text : String) : Except FormatError (Option Nat) :=
  match text.toList with
  | [] => .ok none
  | '.' :: rest =>
    -- the order of the tests is that of the messages: a number too long comes before a wrong letter
    let digits := rest.takeWhile fun c => (Text.digitValue? c).isSome
    let places := digits.foldl (fun n c => 10 * n + (Text.digitValue? c).getD 0) 0
    if digits.isEmpty then .error .noPlaces
    else if 0x7FFFFFFFFFFFFFFF < places then .error .numberTooLong
    else if rest.drop digits.length != ['f'] then .error (.unknown text)
    else if 0x7FFFFFFF < places then .error .tooManyPlaces
    else .ok (some places)
  | _ => .error (.unknown text)

/-- A time as a text such as `.3f` asks for. -/
def format (text : String) (elapsed : Float) : Except FormatError String := do
  match ← placesOf text with
  | some places => return Decimal.fixed places elapsed
  | none => return Decimal.shortest elapsed

end Stopwatch

end Chip8
