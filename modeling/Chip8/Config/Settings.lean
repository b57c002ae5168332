import Chip8.Config.Merge
import Chip8.Text.Quoted
/-!
The configuration: its defaults, the rules that it has to keep, and what is read from it. A table is
checked section by section, and the first rule that is broken is reported.
-/

namespace Chip8.Config

/-- The names of the keys of the pad. -/
def hexKeys : List String :=
  ["0", "1", "2", "3", "4", "5", "6", "7", "8", "9", "A", "B", "C", "D", "E", "F"]

/-- The pad laid over the left side of a keyboard: `1 2 3 C / 4 5 6 D / 7 8 9 E / A 0 B F`. -/
def defaultKeyboard : List (String × String) :=
  [("0", "x"), ("1", "1"), ("2", "2"), ("3", "3"), ("4", "q"), ("5", "w"), ("6", "e"), ("7", "a"),
    ("8", "s"), ("9", "d"), ("A", "z"), ("B", "c"), ("C", "4"), ("D", "r"), ("E", "f"), ("F", "v")]

/-- The configuration that holds where nothing else is said. -/
def defaults : Table := [
  ("general", .table [("fps", .int 60), ("scale", .int 10)]),
  ("machine", .table [
    ("instructions_per_second", .int 700),
    ("strict_opcodes", .bool false),
    ("width", .int 64),
    ("height", .int 32)]),
  ("keyboard", .table (defaultKeyboard.map fun (k, name) => (k, .text name)))]

/-- Why a table is no configuration. -/
inductive Error where
  /-- A section is not there. -/
  | missing (key : String)
  /-- Something other than a table stands where a section belongs. -/
  | notASection (found : Value)
  /-- The keyboard is not a table. -/
  | keyboardNotATable (found : Value)
  /-- A number is not a whole number above zero. -/
  | notPositive (name : String)
  /-- The instruction rate is not a whole number from zero up. -/
  | badPace
  /-- The strictness is not a truth value. -/
  | badStrictness
  /-- The keyboard does not name exactly the keys of the pad. -/
  | badKeyNames
  /-- A key of the pad is not given a key name. -/
  | badKeyValues

/-- The sentence about a broken rule. -/
def Error.message : Error → String
  | missing key => Text.quoted key
  | notASection found =>
    match found with
    | .list _ => "list indices must be integers or slices, not str"
    | .text _ => "string indices must be integers, not 'str'"
    | _ => "'" ++ found.typeName ++ "' object is not subscriptable"
  | keyboardNotATable found => "'" ++ found.typeName ++ "' object has no attribute 'items'"
  | notPositive name => name ++ " must be a positive integer"
  | badPace =>
    "machine.instructions_per_second must be a non-negative integer (0 = unthrottled)"
  | badStrictness => "machine.strict_opcodes must be a boolean"
  | badKeyNames => "keyboard must map exactly the keys 0-F"
  | badKeyValues => "keyboard values must be non-empty key names"

/-- Does the loader answer this error with the defaults? A keyboard that is no table, and a missing
    entry, are passed on. -/
def Error.recovered : Error → Bool
  | missing _ => false
  | keyboardNotATable _ => false
  | _ => true

/-- An entry that has to be there. -/
def require (t : Table) (key : String) : Except Error Value :=
  match t.get? key with
  | some v => .ok v
  | none => .error (.missing key)

/-- A setting in a section. -/
def setting (t : Table) (part key : String) : Except Error Value := do
  match ← require t part with
  | .table entries => require entries key
  | found => .error (.notASection found)

/-- A whole number above zero. -/
def isPositive : Value → Bool
  | .int n => 0 < n
  | _ => false

/-- Check a setting that must be a whole number above zero. -/
def checkPositive (t : Table) (part key : String) : Except Error Unit := do
  if isPositive (← setting t part key) then return ()
  else throw (.notPositive (part ++ "." ++ key))

/-- A whole number from zero up. -/
def isPace : Value → Bool
  | .int n => 0 ≤ n
  | _ => false

/-- A truth value. -/
def isBool : Value → Bool
  | .bool _ => true
  | _ => false

/-- A text that is not empty. -/
def isKeyName : Value → Bool
  | .text s => !s.isEmpty
  | _ => false

/-- The upper-case form of a key of the keyboard table. Only ASCII letters matter: no other
    character becomes a hexadecimal digit. -/
def upperKey (key : String) : String := String.ofList (key.toList.map Char.toUpper)

/-- The keyboard table with its keys in upper case; of two entries for one key the later counts. -/
def upperKeys (entries : Table) : Table :=
  entries.foldl (fun t (k, v) => t.insert (upperKey k) v) []

/-- Check the keyboard table; its keys come out in upper case. -/
def checkKeyboard (t : Table) : Except Error Table := do
  match ← require t "keyboard" with
  | .table entries =>
    let keyboard := upperKeys entries
    -- the names are looked at before any of the values
    if keyboard.keys.all hexKeys.contains && hexKeys.all keyboard.keys.contains then
      if keyboard.all fun e => isKeyName e.2 then return keyboard
      else throw .badKeyValues
    else throw .badKeyNames
  | found => throw (.keyboardNotATable found)

/-- Check every rule in turn. The answer is the table with the keys of its keyboard in upper
    case. -/
def validate (t : Table) : Except Error Table := do
  -- the first rule that is broken is the one that is reported
  checkPositive t "general" "fps"
  checkPositive t "general" "scale"
  if !isPace (← setting t "machine" "instructions_per_second") then throw .badPace
  if !isBool (← setting t "machine" "strict_opcodes") then throw .badStrictness
  checkPositive t "machine" "width"
  checkPositive t "machine" "height"
  let keyboard ← checkKeyboard t
  return t.insert "keyboard" (.table keyboard)

/-- Overrides laid over the defaults, and checked. -/
def build (overrides : Table) : Except Error Table := validate (merge defaults overrides)

/-! ## What is read from a configuration -/

/-- A setting that is a whole number. -/
def intSetting (t : Table) (part key : String) : Int :=
  match setting t part key with
  | .ok (.int n) => n
  | _ => 0

/-- A setting that is a truth value. -/
def boolSetting (t : Table) (part key : String) : Bool :=
  match setting t part key with
  | .ok (.bool b) => b
  | _ => false

/-- Columns of the display. -/
def width (t : Table) : Int := intSetting t "machine" "width"

/-- Rows of the display. -/
def height (t : Table) : Int := intSetting t "machine" "height"

/-- Instructions per second, zero for no limit. -/
def pace (t : Table) : Int := intSetting t "machine" "instructions_per_second"

/-- Does a word that is no instruction halt the machine? -/
def strict (t : Table) : Bool := boolSetting t "machine" "strict_opcodes"

end Chip8.Config
