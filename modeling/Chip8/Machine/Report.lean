import Chip8.Inspect.MemoryDump
import Chip8.Inspect.Snapshot
import Chip8.Machine.Run
import Chip8.Text.Wrap
/-!
What a machine is shown as: the views that are logged for debugging, and the final state of a run
without a window.
-/

namespace Chip8.Machine

variable {κ τ : Type} {s : Size} [Seconds τ] [Clock κ τ]

/-- Several lines as one text. -/
def joinLines (lines : List String) : String := "\n".intercalate lines

/-- Log the registers, the call stack and the beginning of the program. -/
def logDebugViews : Act (Machine κ τ s) Unit := do
  let m ← get
  let registers ← Act.ofExcept .misuse m.snapshot.registerLines
  modify (note .info ("Registers\n" ++ joinLines registers))
  let stack ← Act.ofExcept .misuse m.snapshot.stackLines
  modify (note .info ("Stack\n" ++ (if stack.isEmpty then "(empty)" else joinLines stack)))
  modify (note .info ("Memory\n" ++
    joinLines (MemoryDump.lines m.board.memory.cells.toList programStart 128)))

/-- Columns of the console. -/
def consoleWidth : Nat := 80

/-- The picture and the registers as they are printed, an empty line at the end. -/
def finalLines (m : Machine κ τ s) : Except Misuse (List String) := do
  let registers ← m.snapshot.registerLines
  let lines := m.board.display.grid.lines "#" "." ++ registers
  return lines.flatMap (Text.wrap consoleWidth) ++ [""]

/-- What a run without a window answers: its exit code and what it prints. -/
structure HeadlessReport where
  code : Nat
  lines : List String
  deriving DecidableEq, Repr

/-- The report after a run. If a fault halted the machine that is logged and nothing is printed;
    other failures are passed on. -/
def reportRun (answer : Except Failure Unit) : Act (Machine κ τ s) HeadlessReport := do
  match answer with
  | .error (.halt _) =>
    modify (note .error "Emulator error")
    return ⟨1, [""]⟩
  | .error e => throw e
  | .ok _ =>
    let m ← get
    let lines ← Act.ofExcept .misuse m.finalLines
    modify (note .info s!"Executed {m.instructions} instructions, {m.ticks} timer ticks")
    return ⟨0, lines⟩

/-- Run without a window and report. -/
def runHeadless (host : Host s) (look : κ → κ) (looks : Nat) :
    Act (Machine κ τ s) HeadlessReport := do
  let (answer, m) := (run host look looks).exec (← get)
  set m
  reportRun answer

end Chip8.Machine
