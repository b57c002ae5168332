import Chip8.CommandLine.Session
import Chip8.Log.Target
/-!
The program: it reads the files that a session looks at, prepares the session, runs its machine on
the real clock without a window, and prints the outcome. Everything that is decided is decided in
`CommandLine.Session`.
-/

namespace Chip8.CommandLine

/-- The system's code for a directory where a file belongs. -/
def directoryCode : UInt32 := 21

/-- What a failed attempt to read the file at a path means. -/
def fileErrorOf (path : String) : IO.Error → FileError
  | .inappropriateType _ code _ =>
    if code = directoryCode then .isDirectory path else .notDirectory path
  | .invalidArgument .. => .nameTooLong path
  | _ => .notFound path

/-- Read the file at a path. -/
def readPath (path : String) : IO (String × Except FileError (List UInt8)) := do
  try
    let bytes ← IO.FS.readBinFile path
    return (path, .ok bytes.toList)
  catch e => return (path, .error (fileErrorOf path e))

/-- The time in seconds. -/
def seconds : IO Float := do
  return (← IO.monoNanosNow).toFloat / 1000000000.0

/-- Bytes that differ from run to run and from draw to draw. -/
def noiseOf (seed : Nat) (draw : Nat) : UInt8 := (hash (seed, draw)).toUInt8

/-- Passes of the run loop, each at the time that it is, until the machine halts or the time is
    up. -/
partial def passes {s : Size} (host : Host s) (deadline : Float)
    (m : Machine (ManualClock Float) Float s) :
    IO (Except Failure Unit × Machine (ManualClock Float) Float s) := do
  let now ← seconds
  if m.halted || deadline ≤ now then return (.ok (), m)
  let (answer, next) := (Machine.run host id 1).exec { m with clock := { m.clock with now } }
  if answer matches .error _ then return (answer, next)
  if next.instructions = m.instructions then IO.sleep 1
  passes host deadline next

/-- Print lines and log records. -/
def report (lines : List String) (log : List LogRecord) : IO Unit := do
  for record in log do
    if let .ok line := Log.Format.logFile.render ⟨Log.programLog, record⟩ then IO.eprintln line
  if lines.dropLast != [] then IO.println ("\n".intercalate lines.dropLast)

/-- Run a prepared machine and print the outcome. -/
def runJob (job : Job (ManualClock Float)) : IO UInt32 := do
  let o := job.options
  if !o.headless then
    IO.eprintln "There is no window here: use --headless or --disasm"
    return 1
  let limit := match o.seconds with
    | .value x => x.toFloat
    | .emptied => 0.0
  let began ← seconds
  let (answer, m) ← passes (listener o job.size) (began + limit) job.machine
  let elapsed := Decimal.fixed 2 ((← seconds) - began) ++ "s"
  match job.finish m answer elapsed with
  | .ok outcome =>
    report outcome.lines outcome.log
    return UInt32.ofNat outcome.code
  | .error e =>
    IO.eprintln e.message
    return 1

/-- How the program is called. -/
def usage : String :=
  "usage: pychip8 [-h] [--config CONFIG] [--disasm] [--headless] [--seconds SECONDS]\n" ++
    "               [--strict] [--trace] [--debug] rom"

/-- The number of pixels that are given to a display at most. -/
def room : Nat := 0x100000000

/-- Everything after the arguments were understood. -/
def runOptions (o : Options) : IO UInt32 := do
  let known ← (pathsOf "." o).mapM readPath
  let clock : ManualClock Float := ⟨← seconds, 0.0, 0⟩
  let seed ← IO.rand 0 0xFFFFFFFF
  match prepare room (.ofList "." known) o clock (noiseOf seed) with
  | .error e =>
    IO.eprintln e.message
    return 1
  | .ok (.finished outcome) =>
    report outcome.lines outcome.log
    return UInt32.ofNat outcome.code
  | .ok (.ready job) => runJob job

end Chip8.CommandLine

/-- Run the program with the arguments that it was called with. -/
def main (argv : List String) : IO UInt32 := do
  match Chip8.CommandLine.parseOptions argv with
  | .ok o => Chip8.CommandLine.runOptions o
  | .error e =>
    if e.code = 0 then IO.println Chip8.CommandLine.usage
    else IO.eprintln (Chip8.CommandLine.usage ++ "\n" ++ e.message)
    return UInt32.ofNat e.code
