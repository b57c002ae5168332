import Chip8.Time
/-!
Data of any shape, as it comes out of a configuration file: numbers, text, lists, and tables whose
entries keep their order.
-/

namespace Chip8

/-- What a written moment tells. -/
inductive MomentKind where
  | date
  | timeOfDay
  | both
  deriving DecidableEq, Repr

/-- A value of any shape. -/
inductive Value where
  | null
  | bool (b : Bool)
  | int (n : Int)
  | float (x : Float)
  | text (s : String)
  /-- A date, a time of day or both, as it is written. -/
  | moment (kind : MomentKind) (written : String)
  | list (items : List Value)
  | table (entries : List (String × Value))

/-- A table: keys and values in the order in which the keys came. -/
abbrev Table := List (String × Value)

namespace Table

/-- The value of a key. -/
def get? (t : Table) (key : String) : Option Value := t.lookup key

/-- Give a key a value: in its old place if it has one, else at the end. -/
def insert (key : String) (value : Value) : Table → Table
  | [] => [(key, value)]
  | (k, v) :: rest => if k == key then (k, value) :: rest else (k, v) :: insert key value rest

/-- The keys in order. -/
def keys (t : Table) : List String := t.map (·.1)

theorem get?_insert_self (t : Table) (key : String) (value : Value) :
    (t.insert key value).get? key = some value := by
  induction t with
  | nil => simp [insert, get?]
  | cons e rest ih =>
    rcases e with ⟨k, v⟩
    by_cases h : k = key
    · subst h; simp [insert, get?]
    · have h' : key ≠ k := fun e => h e.symm
      simp only [insert, beq_iff_eq, h, if_false]
      simpa [get?, List.lookup_cons, beq_eq_false_iff_ne.mpr h'] using ih

theorem get?_insert_ne (t : Table) {key other : String} (h : other ≠ key) (value : Value) :
    (t.insert key value).get? other = t.get? other := by
  induction t with
  | nil => simp [insert, get?, List.lookup_cons, beq_eq_false_iff_ne.mpr h]
  | cons e rest ih =>
    rcases e with ⟨k, v⟩
    by_cases hk : k = key
    · subst hk; simp [insert, get?, List.lookup_cons, beq_eq_false_iff_ne.mpr h]
    · simp only [insert, beq_iff_eq, hk, if_false]
      by_cases ho : other = k
      · subst ho; simp [get?]
      · simpa [get?, List.lookup_cons, beq_eq_false_iff_ne.mpr ho] using ih

end Table

namespace Value

/-- The name of a value's shape, as it appears in messages. -/
def typeName : Value → String
  | null => "NoneType"
  | bool _ => "bool"
  | int _ => "int"
  | float _ => "float"
  | text _ => "str"
  | moment .date _ => "datetime.date"
  | moment .timeOfDay _ => "datetime.time"
  | moment .both _ => "datetime.datetime"
  | list _ => "list"
  | table _ => "dict"

/-- Does the value count as true? Nothing, zero and what is empty do not. -/
def truthy : Value → Bool
  | null => false
  | bool b => b
  | int n => n != 0
  | float x => !(x == 0.0)
  | text s => !s.isEmpty
  | moment _ _ => true
  | list items => !items.isEmpty
  | table entries => !entries.isEmpty

/-- The table of a value that is one. -/
def table? : Value → Option Table
  | table entries => some entries
  | _ => none

/-- A whole number that is no truth value. -/
def int? : Value → Option Int
  | int n => some n
  | _ => none

mutual

/-- Are two values the same, of the same shape throughout? -/
def same : Value → Value → Bool
  | null, null => true
  | bool a, bool b => a == b
  | int a, int b => a == b
  -- bit by bit: the two zeros differ, and what is no number is the same as itself
  | float a, float b => a.toBits == b.toBits
  | text a, text b => a == b
  | moment k a, moment l b => k == l && a == b
  | list xs, list ys => sameItems xs ys
  | table es, table fs => sameEntries es fs
  | _, _ => false

/-- Are two lists the same, item by item? -/
def sameItems : List Value → List Value → Bool
  | [], [] => true
  | x :: xs, y :: ys => same x y && sameItems xs ys
  | _, _ => false

/-- Are two tables the same, entry by entry in order? -/
def sameEntries : List (String × Value) → List (String × Value) → Bool
  | [], [] => true
  | (k, x) :: xs, (l, y) :: ys => k == l && same x y && sameEntries xs ys
  | _, _ => false

end

end Value

/-! ## Keys -/

/-- What a value is compared by where values are looked up: truth values and whole floats count as
    the whole numbers that they equal. -/
inductive Key where
  | nothing
  | whole (n : Int)
  | real (bits : UInt64)
  | text (s : String)
  deriving DecidableEq, Repr

/-- The key of a value; moments, lists and tables have none. -/
def Value.key? : Value → Option Key
  | .null => some .nothing
  | .bool b => some (.whole b.toInt)
  | .int n => some (.whole n)
  | .float x =>
    match Decimal.classify x with
    | .finite b =>
      -- a whole float is looked up as the number that it equals
      if b.numerator % b.denominator = 0 then some (.whole b.truncate) else some (.real x.toBits)
    | _ => some (.real x.toBits)
  | .text s => some (.text s)
  | .moment _ _ => none
  | .list _ => none
  | .table _ => none

end Chip8
