/-!
Log records. The name of the log and the text of each record belong to the output of the program;
which records are kept is decided by their level.
-/

namespace Chip8

/-- How much a record matters. -/
inductive Level where
  | debug
  | info
  | warning
  | error
  | critical
  deriving DecidableEq, Repr

namespace Level

/-- The name that is printed. -/
def name : Level → String
  | debug => "DEBUG"
  | info => "INFO"
  | warning => "WARNING"
  | error => "ERROR"
  | critical => "CRITICAL"

/-- The level of a name; two of them have a second name. -/
def ofName? : String → Option Level
  | "DEBUG" => some debug
  | "INFO" => some info
  | "WARNING" => some warning
  | "ERROR" => some error
  | "CRITICAL" => some critical
  | "WARN" => some warning
  | "FATAL" => some critical
  | _ => none

/-- The place in the order of levels. -/
def rank : Level → Nat
  | debug => 10
  | info => 20
  | warning => 30
  | error => 40
  | critical => 50

/-- Is a record of level `l` kept where `threshold` is asked for? -/
def passes (threshold l : Level) : Bool := threshold.rank ≤ l.rank

theorem ofName?_name (l : Level) : ofName? l.name = some l := by cases l <;> rfl

end Level

/-- One record. -/
structure LogRecord where
  level : Level
  message : String
  deriving DecidableEq, Repr

end Chip8
