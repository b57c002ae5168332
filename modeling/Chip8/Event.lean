import Chip8.Board
import Chip8.Log.Record
import Chip8.Mnemonic
/-!
What a machine tells its listeners, and what listeners may do about it. A host answers every event
with a reaction, which may depend on all that it heard before.
-/

namespace Chip8

/-- What a trace shows of an instruction: its place and word, and the registers before it runs. -/
structure TraceEntry where
  pc : Int
  word : Word
  i : Int
  sp : Int
  delay : Int
  sound : Int
  v : Vector UInt8 16
  deriving DecidableEq

namespace TraceEntry

/-- The entry for a word fetched at `pc`, with the registers `r`. -/
def of (pc : Int) (word : Word) (r : Registers) : TraceEntry :=
  ⟨pc, word, r.i, r.sp, r.delay, r.sound, r.v⟩

/-- The line of an entry. -/
def text (e : TraceEntry) : String :=
  Text.hex 4 e.pc ++ ": " ++ Text.hex 4 e.word.toNat ++ "  " ++
    Text.padRight 16 (mnemonic e.word) ++
    " | I: " ++ Text.hex 4 e.i ++ " | SP: " ++ Text.hex 2 e.sp ++
    " | DT: " ++ Text.hex 2 e.delay ++ " | ST: " ++ Text.hex 2 e.sound ++
    " | V: " ++ " ".intercalate (e.v.toList.map fun b => Text.hex 2 b.toNat)

end TraceEntry

/-- What listeners hear. -/
inductive Event (s : Size) where
  /-- A picture is finished. -/
  | frameComplete (picture : Grid s)
  /-- The tone went on or off. -/
  | tone (on : Bool)
  /-- The machine waits for a key to put into a register. -/
  | keyWait (x : Fin 16)
  /-- The machine goes on, with a key for the register that waited. -/
  | keyResume (x key : Fin 16)
  /-- An instruction is about to run. -/
  | traced (entry : TraceEntry)
  deriving DecidableEq

/-- The name that listeners subscribe to. -/
def Event.name {s : Size} : Event s → String
  | frameComplete _ => "frame_complete"
  | tone _ => "audio"
  | keyWait _ => "key_wait"
  | keyResume _ _ => "key_resume"
  | traced _ => "tracelogger"

/-- What a listener does when it hears an event, in this order. -/
structure Reaction where
  /-- Write to the log. -/
  log : List LogRecord := []
  /-- Ask the run loop to stop. -/
  stop : Bool := false
  /-- Pause the machine. -/
  pause : Bool := false
  /-- Halt the machine. -/
  halt : Bool := false
  /-- Fail. -/
  fail : Bool := false
  deriving DecidableEq, Repr

/-- A host: its reaction to an event after the events it heard before, the latest first. -/
abbrev Host (s : Size) := List (Event s) → Event s → Reaction

/-- A host that only listens. -/
def Host.inert {s : Size} : Host s := fun _ _ => {}

end Chip8
