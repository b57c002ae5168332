import Chip8.CommandLine.Options
import Chip8.Config.Load
import Chip8.Files.Directory
import Chip8.Machine.Report
import Chip8.ProgramFile
import Chip8.Text.Table
/-!
A session of the program: from its arguments to a listing, a refusal, or a machine that is ready to
run, and from the end of the run to the exit code. The memory of the host enters in one place: a display
whose pixels it has no `room` for cannot be built.
-/

namespace Chip8.CommandLine

/-- Version of the program. -/
def version : String := "0.1.0-dev.0"

/-- What the program leaves behind: its exit code, the printed lines, and the log. -/
structure Outcome where
  code : Nat
  lines : List String
  log : List LogRecord
  deriving DecidableEq, Repr

/-- What ends a session before it can finish. -/
inductive Abort where
  | usage (error : UsageError)
  /-- The configuration was asked for without a path. -/
  | noConfigPath
  | config (error : Config.LoadError)
  | file (error : FileError)
  | failure (error : Failure)

/-- The sentence about what ended a session early. -/
def Abort.message : Abort → String
  | usage e => e.message
  | noConfigPath => "expected str, bytes or os.PathLike object, not list"
  | config e => e.message
  | file e => e.message
  | failure e => e.message

/-- A machine with its program, ready to run. -/
structure Job (κ : Type) where
  options : Options
  size : Size
  machine : Machine κ Float size
  /-- What was logged before the machine was built. -/
  log : List LogRecord

/-- Where a session stands after its preparation. -/
inductive Prepared (κ : Type) where
  | finished (outcome : Outcome)
  | ready (job : Job κ)

/-- The least level of the records that are kept. -/
def threshold (o : Options) : Level := if o.debug then .debug else .info

/-- The records that are kept. -/
def kept (o : Options) (log : List LogRecord) : List LogRecord :=
  log.filter fun r => (threshold o).passes r.level

/-- The path of the image: as it was given, or below `roms` if there is nothing at the one and
    something at the other. -/
def resolveRom (disk : Disk) (name : String) : Except FileError String := do
  let path := Path.plain name
  if ← disk.isThere path then return path
  else
    let other := Path.join (Path.join disk.home "roms") name
    if ← disk.isThere other then return other else return path

/-- The paths at which a session looks for files. -/
def pathsOf (home : String) (o : Options) : List String :=
  let config := match o.config with
    | some (.value path) => Path.plain path
    | _ => Path.join home "config.toml"
  [config, Path.plain o.rom, Path.join (Path.join home "roms") o.rom]

/-- The listing of a program as a table. -/
def listingTable (p : Program) : Text.Table where
  title := s!"{Path.fileName p.file} ({p.size} bytes)"
  header := ["Address", "Bytes", "Instruction"]
  rows := p.listing.map fun l => ["$" ++ Text.hex 4 l.address, Text.hex 4 l.word, l.text]

/-- The listener of a session: with tracing on, every traced line is logged. -/
def listener (o : Options) (s : Size) : Host s := fun _ event =>
  match event with
  | .traced entry => if o.trace then { log := [⟨.debug, entry.text⟩] } else {}
  | _ => {}

variable {κ : Type} [Clock κ Float] (room : Nat)

/-- Build the machine that a configuration asks for and load the program. -/
def buildJob (o : Options) (config : Table) (program : Program) (clock : κ)
    (noise : Nat → UInt8) (log : List LogRecord) : Except Failure (Job κ) := do
  match Size.ofInts room (Config.width config) (Config.height config) with
  | .error e => throw (.misuse e)
  | .ok size =>
    let settings : Machine.Settings Float :=
      { pace := .whole (Config.pace config), strict := Config.strict config || o.strict }
    let m : Machine κ Float size := Machine.create settings clock noise
    match (Machine.load (listener o size) program).exec { m with tracing := o.trace } with
    | (.error e, _) => throw e
    | (.ok _, m) => return ⟨o, size, m, log⟩

/-- Everything up to the run. -/
def prepare (disk : Disk) (o : Options) (clock : κ) (noise : Nat → UInt8) :
    Except Abort (Prepared κ) := do
  let configPath ← match o.config with
    | none => pure none
    | some (.value path) => pure (some path)
    | some .emptied => throw .noConfigPath
  let (config, log) ← match Config.load disk configPath with
    | .error e => throw (.config e)
    | .ok answer => pure answer
  let log := log ++ [⟨.info, "Starting PyCHIP8 " ++ version⟩]
  let finish (code : Nat) (lines : List String) (log : List LogRecord) : Prepared κ :=
    .finished ⟨code, lines, kept o log⟩
  match resolveRom disk o.rom with
  | .error e => throw (.file e)
  | .ok path =>
    match Program.ofFile disk path with
    | .error e => throw (.file e)
    | .ok (.error e) => return finish 1 [""] (log ++ [⟨.error, e.message⟩])
    | .ok (.ok program) =>
      let log := log ++ program.notices
      if o.disassemble then return finish 0 ((listingTable program).render ++ [""]) log
      else
        match buildJob room o config program clock noise log with
        | .error e => throw (.failure e)
        | .ok job => return .ready job

/-- The outcome of a job whose run ended with `answer` after a time that is shown as `elapsed`. -/
def Job.finish (job : Job κ) (machine : Machine κ Float job.size) (answer : Except Failure Unit)
    (elapsed : String) : Except Failure Outcome :=
  match (Machine.reportRun answer).exec machine with
  | (.error e, _) => .error e
  | (.ok report, m) =>
    let m := m.note .info ("Stopped after " ++ elapsed)
    .ok ⟨report.code, report.lines, kept job.options (job.log ++ m.log.reverse)⟩

/-- The directory of the log files. -/
def logDirectory : String := "log"

/-- A whole session in a tree of files, on a clock that moves by `look` whenever the run loop looks at
    its stop signal, for `looks` looks. -/
def run (tree : FileTree) (argv : List String) (clock : κ) (noise : Nat → UInt8) (look : κ → κ)
    (looks : Nat) (elapsed : String) : Except Abort Outcome := do
  match parseOptions argv, tree.ensureDirectory (tree.resolve logDirectory) with
  | .error e, _ => throw (.usage e)
  | .ok _, .error e => throw (.file e)
  | .ok o, .ok tree =>
    match ← prepare room tree.disk o clock noise with
    | .finished outcome => return outcome
    | .ready job =>
      let (answer, m) := (Machine.run (listener o job.size) look looks).exec job.machine
      match job.finish m answer elapsed with
      | .error e => throw (.failure e)
      | .ok outcome => return outcome

end Chip8.CommandLine
