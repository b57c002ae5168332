import Chip8.Calendar
import Chip8.Toml.Lexeme
/-!
Dates and times of day in a document: `1979-05-27`, `07:32:00.25`, and both joined by a `T` or a
blank, after which a distance from the world's time may stand.
-/

namespace Chip8.Toml

/-- A number of exactly `count` digits from `low` to `high`. -/
def fixedNumber? (count low high : Nat) (cs : List Char) : Option (Nat × List Char) :=
  let digits := cs.take count
  let n := digitsValue 10 digits
  if digits.length = count ∧ digits.all Char.isDigit ∧ low ≤ n ∧ n ≤ high then
    some (n, cs.drop count)
  else none

/-- Hours and minutes; what follows them. -/
def afterMinutes? (cs : List Char) : Option (List Char) := do
  let (_, cs) ← fixedNumber? 2 0 23 cs
  let (_, cs) ← fixedNumber? 2 0 59 (← after? [':'] cs)
  return cs

/-- The places of the seconds, if there are any, are left behind. -/
def skipPlaces : List Char → List Char
  | '.' :: d :: rest => if d.isDigit then rest.dropWhile Char.isDigit else '.' :: d :: rest
  | cs => cs

/-- A time of day; what follows it. -/
def afterTime? (cs : List Char) : Option (List Char) := do
  let (_, cs) ← fixedNumber? 2 0 59 (← after? [':'] (← afterMinutes? cs))
  return skipPlaces cs

/-- The distance from the world's time, if there is one, is left behind. -/
def skipOffset : List Char → List Char
  | 'Z' :: rest => rest
  | 'z' :: rest => rest
  | '+' :: rest => (afterMinutes? rest).getD ('+' :: rest)
  | '-' :: rest => (afterMinutes? rest).getD ('-' :: rest)
  | cs => cs

/-- A time of day that belongs to the date before it; what follows it. -/
def afterJoinedTime? : List Char → Option (List Char)
  | mark :: rest =>
    if mark == 'T' || mark == 't' || mark == ' ' then skipOffset <$> afterTime? rest else none
  | [] => none

/-- Year, month and day as they are written. -/
def date? (cs : List Char) : Option ((Nat × Nat × Nat) × List Char) := do
  let (year, cs) ← fixedNumber? 4 0 9999 cs
  let (month, cs) ← fixedNumber? 2 1 12 (← after? ['-'] cs)
  let (day, cs) ← fixedNumber? 2 1 31 (← after? ['-'] cs)
  return ((year, month, day), cs)

/-- A moment, if one is written. A date must be one of the calendar. -/
def moment? (cs : List Char) : Except Stuck (Option (Value × List Char)) :=
  let found (kind : MomentKind) (rest : List Char) : Except Stuck (Option (Value × List Char)) :=
    .ok (some (.moment kind (String.ofList (cs.take (cs.length - rest.length))), rest))
  match date? cs with
  | some ((year, month, day), rest) =>
    if year = 0 ∨ daysIn year month < day then stuck "Invalid date or datetime" cs
    else
      match afterJoinedTime? rest with
      | some rest => found .both rest
      | none => found .date rest
  | none =>
    match afterTime? cs with
    | some rest => found .timeOfDay rest
    | none => .ok none

end Chip8.Toml
