import Chip8.Config.Settings
import Chip8.Log.Record
import Chip8.Text.Hex
/-!
The keyboard of the host, laid over the pad. Key names are turned into codes; each code plays at
most one key of the pad, and of two keys of the pad on one code the higher wins.
-/

namespace Chip8.Host

/-- The codes of keys that have a name of more than one character. Keys without a character have
    codes from `0x40000000` on, by their place on the keyboard. -/
def namedKeys : List (String × Nat) := [
  ("space", 32), ("return", 13), ("backspace", 8), ("tab", 9), ("escape", 27), ("delete", 127),
  ("right", 0x4000004F), ("left", 0x40000050), ("down", 0x40000051), ("up", 0x40000052),
  ("insert", 0x40000049), ("home", 0x4000004A), ("page up", 0x4000004B), ("end", 0x4000004D),
  ("page down", 0x4000004E), ("f1", 0x4000003A), ("f2", 0x4000003B), ("f3", 0x4000003C),
  ("f4", 0x4000003D), ("f5", 0x4000003E), ("f6", 0x4000003F), ("f7", 0x40000040),
  ("f8", 0x40000041), ("f9", 0x40000042), ("f10", 0x40000043), ("f11", 0x40000044),
  ("f12", 0x40000045), ("left ctrl", 0x400000E0), ("left shift", 0x400000E1),
  ("left alt", 0x400000E2), ("right ctrl", 0x400000E4), ("right shift", 0x400000E5),
  ("right alt", 0x400000E6)]

/-- The code of a key name. A single character is its own code; the case of ASCII letters does not
    count. -/
def keyCode? (name : String) : Option Nat :=
  match name.toList with
  | [c] => if c == '\x00' then none else some c.toLower.toNat
  | cs => namedKeys.lookup (String.ofList (cs.map Char.toLower))

/-- A key of the host going down or up. -/
inductive KeyEvent where
  | down (code : Nat)
  | up (code : Nat)
  /-- Anything else that happened. -/
  | other
  deriving DecidableEq, Repr

/-- Codes and the keys of the pad that they play, and the state of the pad's keys. -/
structure Keyboard where
  mapping : List (Nat × Fin 16)
  state : Vector Bool 16
  deriving DecidableEq

namespace Keyboard

/-- The key of the pad that a code plays. -/
def target? (mapping : List (Nat × Fin 16)) (code : Nat) : Option (Fin 16) := mapping.lookup code

/-- Give a code to a key of the pad, taking it from the key that had it. -/
def assign (mapping : List (Nat × Fin 16)) (code : Nat) (k : Fin 16) : List (Nat × Fin 16) :=
  (code, k) :: mapping.filter fun e => e.1 != code

/-- The name of a key of the pad. -/
def padName (k : Fin 16) : String := Text.hex 1 k.val

/-- The host key that a table names for a key of the pad. -/
def chosenName (table : List (String × String)) (k : Fin 16) : String :=
  (table.lookup (padName k)).getD ""

/-- What is logged for a name without a code. -/
def unknownName (name : String) (k : Fin 16) : LogRecord :=
  ⟨.warning, "Invalid key '" ++ name ++ "' in config for keypad " ++ padName k⟩

/-- The mapping of a table, taking the keys of the pad in order, and what is logged. -/
def buildMapping (codeOf : String → Option Nat) (table : List (String × String)) :
    List (Nat × Fin 16) × List LogRecord :=
  (List.finRange 16).foldl (fun (mapping, log) k =>
    let name := chosenName table k
    -- a later key of the pad takes a code from an earlier one
    match codeOf name with
    | some code => (assign mapping code k, log)
    | none => (mapping, log ++ [unknownName name k])) ([], [])

/-- A keyboard for a table and the codes that names have, with every key up, and what is logged. -/
def createBy (codeOf : String → Option Nat) (table : List (String × String)) :
    Keyboard × List LogRecord :=
  let (mapping, log) := buildMapping codeOf table
  (⟨mapping, Vector.replicate 16 false⟩, log)

/-- A keyboard for a table, with every key up, and what is logged. -/
def create (table : List (String × String)) : Keyboard × List LogRecord := createBy keyCode? table

/-- The keys of the pad that a code plays, in order. -/
def mapped (kb : Keyboard) : List (Fin 16) :=
  (List.finRange 16).filter fun k => kb.mapping.any fun e => e.2 == k

/-- The state after one event. -/
def apply (mapping : List (Nat × Fin 16)) (state : Vector Bool 16) : KeyEvent → Vector Bool 16
  | .down code =>
    match target? mapping code with
    | some k => state.set k.val true
    | none => state
  | .up code =>
    match target? mapping code with
    | some k => state.set k.val false
    | none => state
  | .other => state

/-- Apply a batch of events. The answer is whether any key of the pad is different then. -/
def update (kb : Keyboard) (events : List KeyEvent) : Bool × Keyboard :=
  let state := events.foldl (apply kb.mapping) kb.state
  (state != kb.state, { kb with state })

end Keyboard

end Chip8.Host
