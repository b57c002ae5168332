import Chip8.Decimal.ByteCount
import Chip8.Fault
import Chip8.Time
import Chip8.Whole
/-!
What an operation of the library may fail with, and the shape of operations that may fail: `Act σ`
is an operation on a state `σ` that keeps what it did before it failed.
-/

namespace Chip8

/-- A mistake of the caller, not of the running program. -/
inductive Misuse where
  /-- An instruction word must fit sixteen bits. -/
  | wordOutOfRange (word : Int)
  /-- A byte of an image must be in 0 to 255. -/
  | byteOutOfRange
  /-- The pad has keys 0 to 15. -/
  | keyOutOfRange (key : Int)
  /-- A single key was named without saying whether it is down. -/
  | keyStateMissing
  /-- A position beyond an axis of `size` places. -/
  | indexOutOfRange (index : Int) (axis size : Nat)
  /-- Something that is no position at all. -/
  | notAPosition
  /-- Positions that name no place where one place is asked for. -/
  | noPlaceNamed
  /-- Positions that name many places where one place is asked for. -/
  | manyPlacesNamed
  /-- A number that a cell of `bits` bits cannot hold. -/
  | valueOutOfRange (value : Int) (bits : Nat)
  /-- A number that no machine word can hold. -/
  | numberTooLong
  /-- A display needs at least one row and one column. -/
  | badDisplaySize (width height : Whole)
  /-- A side of a display that is a truth value. -/
  | displaySideNotANumber
  /-- A side of a display that no machine word can hold. -/
  | displaySideTooLong
  /-- A display with more pixels than a machine word can count. -/
  | displayTooLarge
  /-- A display with more pixels than there is memory for. -/
  | noRoomForDisplay (width height : Nat)
  /-- A text where bytes in hexadecimal belong is wrong at a place. -/
  | notHexadecimal (place : Nat)
  /-- Something else where a program belongs. -/
  | notAProgram (typeName : String)
  /-- A copy handed out for reading was written to. -/
  | readOnly
  /-- A snapshot is too short for what it is asked to show. -/
  | snapshotTooShort
  /-- A snapshot is asked for more than any list can hold. -/
  | snapshotPositionTooLong
  deriving DecidableEq, Repr

/-- The sentence about a mistake. -/
def Misuse.message : Misuse → String
  | wordOutOfRange word => s!"Instruction word out of range: {Text.hexLiteral word}"
  | byteOutOfRange => "byte must be in range(0, 256)"
  | keyOutOfRange key => s!"Invalid key {key}, must be 0-15"
  | keyStateMissing => "pressed is required when setting a single key"
  | indexOutOfRange index axis size =>
    s!"index {index} is out of bounds for axis {axis} with size {size}"
  | notAPosition => "only integers, slices (`:`), ellipsis (`...`), numpy.newaxis (`None`) and " ++
    "integer or boolean arrays are valid indices"
  | numberTooLong => "int too large to convert to C long"
  | valueOutOfRange value bits => s!"integer {value} out of bounds for uint{bits}"
  | noPlaceNamed => "The truth value of an empty array is ambiguous. Use `array.size > 0` to check " ++
    "that an array is not empty."
  | manyPlacesNamed => "The truth value of an array with more than one element is ambiguous. " ++
    "Use a.any() or a.all()"
  | badDisplaySize width height =>
    s!"Display size must be positive, got {width.text}x{height.text}"
  | displaySideNotANumber => "an integer is required"
  | displaySideTooLong => "Maximum allowed dimension exceeded"
  | displayTooLarge => "array is too big; `arr.size * arr.dtype.itemsize` is larger than the " ++
    "maximum possible size."
  | noRoomForDisplay width height =>
    "Unable to allocate " ++ Decimal.byteCount (width * height) ++
      s!" for an array with shape ({height}, {width}) and data type bool"
  | notHexadecimal place =>
    s!"non-hexadecimal number found in fromhex() arg at position {place}"
  | notAProgram typeName => s!"Expected Program, got {typeName}"
  | readOnly => "assignment destination is read-only"
  | snapshotTooShort => "tuple index out of range"
  | snapshotPositionTooLong => "cannot fit 'int' into an index-sized integer"

/-- Everything that an operation may fail with. -/
inductive Failure where
  /-- A fault of the machine that did not halt it. -/
  | fault (fault : Fault)
  /-- A fault that halted the machine. -/
  | halt (halt : Halt)
  | misuse (misuse : Misuse)
  /-- The number of due periods has no value. -/
  | time (error : PeriodError)
  /-- A listener of the named event failed. -/
  | listener (event : String)
  deriving DecidableEq, Repr

/-- The sentence about a failure. -/
def Failure.message : Failure → String
  | fault f => f.message
  | halt h => h.message
  | misuse m => m.message
  | time e => e.message
  | listener event => s!"{event} listener failed"

/-- An operation on `σ` that may fail; what it changed before failing stays changed. -/
abbrev Act (σ : Type) := ExceptT Failure (StateM σ)

namespace Act

variable {σ α β : Type}

/-- Run an operation: its answer and the state it leaves. -/
def exec (act : Act σ α) (s : σ) : Except Failure α × σ := act.run.run s

/-- Pass on the answer of a pure computation, with its own kind of error. -/
def ofExcept {ε : Type} (wrap : ε → Failure) : Except ε α → Act σ α
  | .ok a => pure a
  | .error e => throw (wrap e)

/-- If `act` fails with a fault, go on with `handler`; other failures pass. -/
def onFault (act : Act σ α) (handler : Fault → Act σ α) : Act σ α :=
  tryCatch act fun
    | .fault f => handler f
    | e => throw e

@[simp] theorem exec_pure (a : α) (s : σ) : (pure a : Act σ α).exec s = (.ok a, s) := rfl

@[simp] theorem exec_get (s : σ) : (get : Act σ σ).exec s = (.ok s, s) := rfl

@[simp] theorem exec_modify (f : σ → σ) (s : σ) :
    (modify f : Act σ PUnit).exec s = (.ok ⟨⟩, f s) := rfl

/-- One operation after another: the second runs if the first did not fail. -/
theorem exec_bind (x : Act σ α) (f : α → Act σ β) (s : σ) :
    (x >>= f).exec s =
      match x.exec s with
      | (.ok a, t) => (f a).exec t
      | (.error e, t) => (.error e, t) := by
  simp only [exec, bind, ExceptT.bind, ExceptT.bindCont, ExceptT.mk, ExceptT.run, StateT.bind,
    StateT.run]
  rcases x s with ⟨a | a, t⟩ <;> rfl

/-- Passing on an answer leaves the state alone. -/
theorem exec_ofExcept {ε : Type} (wrap : ε → Failure) (r : Except ε α) (s : σ) :
    (ofExcept wrap r).exec s = (r.mapError wrap, s) := by
  cases r <;> rfl

/-- A fault of `act` is handled in the state that it left; everything else passes. -/
theorem exec_onFault (act : Act σ α) (handler : Fault → Act σ α) (s : σ) :
    (act.onFault handler).exec s =
      match act.exec s with
      | (.error (.fault f), t) => (handler f).exec t
      | answer => answer := by
  simp only [exec, onFault, tryCatch, tryCatchThe, MonadExceptOf.tryCatch, ExceptT.tryCatch,
    ExceptT.mk, ExceptT.run, bind, StateT.bind, StateT.run]
  rcases act s with ⟨e | a, t⟩
  · cases e <;> rfl
  · rfl

end Act

end Chip8
