import Chip8.Axis
import Chip8.Value
/-!
The sixteen hexadecimal keys. A change of several keys is checked as a whole before any of them
changes.
-/

namespace Chip8

/-- Which keys are down. -/
structure Keypad where
  keys : Vector Bool 16
  deriving DecidableEq

namespace Keypad

/-- Every key up. -/
def released : Keypad := ⟨Vector.replicate 16 false⟩

/-- The key that a number names. -/
def key (k : Int) : Except Misuse (Fin 16) :=
  if h : 0 ≤ k ∧ k < 16 then .ok ⟨k.toNat, by omega⟩ else .error (.keyOutOfRange k)

/-- Put one key down or up. -/
def put (pad : Keypad) (k : Fin 16) (down : Bool) : Keypad := ⟨pad.keys.set k.val down (lt_sixteen k)⟩

/-- Set the key that a number names. -/
def set (pad : Keypad) (k : Int) (down : Bool) : Except Misuse Keypad :=
  (pad.put · down) <$> key k

/-- Check every key number of a change, in order. -/
def resolve : List (Int × Bool) → Except Misuse (List (Fin 16 × Bool))
  | [] => .ok []
  | (k, down) :: rest => do
    let k ← key k
    -- the first number that names no key is the one that is reported
    return (k, down) :: (← resolve rest)

/-- Apply several changes at once, a later one for the same key winning; if one number names no
    key, nothing changes. -/
def update (pad : Keypad) (changes : List (Int × Bool)) : Except Misuse Keypad :=
  (fun resolved => resolved.foldl (fun pad (k, down) => pad.put k down) pad) <$> resolve changes

/-- The changes that a list of states for the keys from 0 on stands for. -/
def numbered (states : List Bool) : List (Int × Bool) :=
  states.zipIdx.map fun (down, k) => ((k : Int), down)

/-- Is the key that a number names down? -/
def isDown (pad : Keypad) (k : Int) : Except Misuse Bool :=
  (fun k : Fin 16 => getElem pad.keys k.val (lt_sixteen k)) <$> key k

/-- The lowest key that is down. -/
def first? (pad : Keypad) : Option (Fin 16) :=
  (List.finRange 16).find? fun k => getElem pad.keys k.val (lt_sixteen k)

/-- One line about the keys that are down. -/
def describe (pad : Keypad) : String :=
  let down := (List.finRange 16).filter fun k => getElem pad.keys k.val (lt_sixteen k)
  let names := down.map fun k => Text.hex 1 k.val
  "<Keypad pressed=" ++ (if names.isEmpty then "-" else ",".intercalate names) ++ ">"

end Keypad

/-- The states of several keys as they are given. Any value may tell whether a key is down. -/
inductive KeyStates where
  /-- A value for each of some keys. -/
  | byKey (entries : List (Int × Value))
  /-- Values for the keys from 0 on. -/
  | inOrder (values : List Value)

/-- The changes that they stand for: a key is down if its value counts as true. -/
def KeyStates.changes : KeyStates → List (Int × Bool)
  | byKey entries => entries.map fun (k, v) => (k, v.truthy)
  | inOrder values => Keypad.numbered (values.map Value.truthy)

end Chip8
