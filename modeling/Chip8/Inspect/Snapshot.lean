import Chip8.Machine.Basic
/-!
Views of the registers and the call stack, as text.
-/

namespace Chip8

/-- The registers of a machine at one moment. -/
structure Snapshot where
  v : List Int
  i : Int
  pc : Int
  sp : Int
  stack : List Int
  delay : Int
  sound : Int
  status : String
  halted : Bool
  deriving DecidableEq, Repr

namespace Snapshot

/-- The values at the positions from `start` on, four to a row, each with its register's name. -/
def registerRow (v : List Int) (start : Nat) : Except Misuse String := do
  let cells ← (List.range' start 4).mapM fun (k : Nat) =>
    match v[k]? with
    | some value => .ok ("V" ++ Text.hex 1 k ++ ": " ++ Text.hex 2 value)
    | none => .error .snapshotTooShort
  return "  ".intercalate cells

/-- All registers, line by line; a row that runs past the last register fails. -/
def registerLines (s : Snapshot) : Except Misuse (List String) := do
  let rows ← (List.range ((s.v.length + 3) / 4)).mapM fun row => registerRow s.v (4 * row)
  return rows ++ [
    "",
    "I: " ++ Text.hex 4 s.i ++ "  PC: " ++ Text.hex 4 s.pc ++ "  SP: " ++ Text.hex 2 s.sp,
    "DT: " ++ Text.hex 2 s.delay ++ "  ST: " ++ Text.hex 2 s.sound ++ "  State: " ++ s.status]

/-- One frame of the call stack. -/
def frameLine (stack : List Int) (depth : Nat) : Except Misuse String :=
  match stack[depth]? with
  | some address => .ok (Text.padLeft 2 (toString depth) ++ ": " ++ Text.hex 4 address)
  | none => .error .snapshotTooShort

/-- The frames in use, the innermost call first; it fails if the stack is too short to hold it. -/
def stackLines (s : Snapshot) : Except Misuse (List String) :=
  if 0x8000000000000000 < s.sp then .error .snapshotPositionTooLong
  else if s.stack.length < s.sp then .error .snapshotTooShort
  else (List.range s.sp.toNat).reverse.mapM (frameLine s.stack)

end Snapshot

/-- The snapshot of a machine. -/
def Machine.snapshot {κ τ : Type} {s : Size} (m : Machine κ τ s) : Snapshot where
  v := m.board.regs.v.toList.map fun b => (b.toNat : Int)
  i := m.board.regs.i
  pc := m.board.regs.pc
  sp := m.board.regs.sp
  stack := m.board.regs.stack.toList.map fun w => (w.toNat : Int)
  delay := m.board.regs.delay
  sound := m.board.regs.sound
  status := m.status
  halted := m.halted

end Chip8
