import Chip8.Axis
import Chip8.Value
/-!
Dates and times of day, and the names of log files made from them.
-/

namespace Chip8

/-- Why values are no date and time. -/
inductive MomentError where
  | tooMany (count : Nat)
  /-- The part with the given name and place, counted from one, is missing. -/
  | missing (part : String) (place : Nat)
  | notWhole (typeName : String)
  /-- The number does not fit a machine word. -/
  | tooLong
  /-- The number does not fit half a machine word. -/
  | tooLarge
  | tooSmall
  | notAZone (typeName : String)
  | year (year : Int)
  | month
  | day
  | hour
  | minute
  | second
  | microsecond
  deriving DecidableEq, Repr

/-- The sentence about them. -/
def MomentError.message : MomentError → String
  | tooMany count =>
    if count = 9 then "function takes at most 8 positional arguments (9 given)"
    else s!"function takes at most 9 arguments ({count} given)"
  | missing part place => s!"function missing required argument '{part}' (pos {place})"
  | notWhole typeName => s!"'{typeName}' object cannot be interpreted as an integer"
  | tooLong => Misuse.numberTooLong.message
  | tooLarge => "signed integer is greater than maximum"
  | tooSmall => "signed integer is less than minimum"
  | notAZone typeName =>
    s!"tzinfo argument must be None or of a tzinfo subclass, not type '{typeName}'"
  | year y => s!"year {y} is out of range"
  | month => "month must be in 1..12"
  | day => "day is out of range for month"
  | hour => "hour must be in 0..23"
  | minute => "minute must be in 0..59"
  | second => "second must be in 0..59"
  | microsecond => "microsecond must be in 0..999999"

/-- A date and a time of day. -/
structure Moment where
  year : Nat
  month : Nat
  day : Nat
  hour : Nat
  minute : Nat
  second : Nat
  deriving DecidableEq, Repr

/-- Does a year have a leap day? -/
def isLeap (year : Nat) : Bool := year % 4 == 0 && (year % 100 != 0 || year % 400 == 0)

/-- The days of a month. -/
def daysIn (year month : Nat) : Nat :=
  if month = 2 then (if isLeap year then 29 else 28)
  else if month = 4 ∨ month = 6 ∨ month = 9 ∨ month = 11 then 30
  else 31

namespace Moment

/-- The moment that numbers name; the first number that is out of place is reported. -/
def ofNumbers (year month day hour minute second microsecond : Int) :
    Except MomentError Moment := do
  if year < 1 ∨ 9999 < year then throw (.year year)
  if month < 1 ∨ 12 < month then throw .month
  if day < 1 ∨ (daysIn year.toNat month.toNat : Int) < day then throw .day
  if hour < 0 ∨ 23 < hour then throw .hour
  if minute < 0 ∨ 59 < minute then throw .minute
  if second < 0 ∨ 59 < second then throw .second
  if microsecond < 0 ∨ 999999 < microsecond then throw .microsecond
  return ⟨year.toNat, month.toNat, day.toNat, hour.toNat, minute.toNat, second.toNat⟩

/-- A part of a date: a whole number of 32 bits. -/
def partOf (v : Value) : Except MomentError Int :=
  let fit (n : Int) : Except MomentError Int :=
    if !isWord64 n then .error .tooLong
    else if 0x80000000 ≤ n then .error .tooLarge
    else if n < -0x80000000 then .error .tooSmall
    else .ok n
  match v with
  | .int n => fit n
  | .bool b => fit b.toInt
  | v => .error (.notWhole v.typeName)

/-- The parts that every date needs. -/
def neededParts : List String := ["year", "month", "day"]

/-- The moment that values name: year, month and day, and down to microseconds as many more as there
    are; after these may stand that the time zone is none. -/
def ofValues (values : List Value) : Except MomentError Moment := do
  if 9 < values.length then throw (.tooMany values.length)
  let parts ← (values.take 7).mapM partOf
  if values.length = 9 then throw (.tooMany values.length)
  match neededParts[parts.length]? with
  | some part => throw (.missing part (parts.length + 1))
  | none => pure ()
  let part (k : Nat) : Int := parts.getD k 0
  let moment ← ofNumbers (part 0) (part 1) (part 2) (part 3) (part 4) (part 5) (part 6)
  match values[7]? with
  | none => return moment
  | some .null => return moment
  | some v => throw (.notAZone v.typeName)

/-- A number of two digits. -/
def twoDigits (n : Nat) : String := String.ofList ((Nat.toDigits 10 n).leftpad 2 '0')

/-- Date and time joined by dashes and an underscore, as in file names. -/
def stamp (m : Moment) : String :=
  toString m.year ++ "-" ++ twoDigits m.month ++ "-" ++ twoDigits m.day ++ "_" ++
    twoDigits m.hour ++ "-" ++ twoDigits m.minute ++ "-" ++ twoDigits m.second

/-- The name of the log file of a run that began then. -/
def logFileName (m : Moment) : String := "pychip8_" ++ m.stamp ++ ".log"

end Moment

end Chip8
