import Chip8.Calendar
import Chip8.Files.Directory
import Chip8.Log.File
import Chip8.Log.Format
import Chip8.Text.Lines
/-!
Log files in a tree of files, and the set-up of the program's log: records from a level on go to a
file of their own, named for the time at which the program began.
-/

namespace Chip8.Log

/-- The name of the program's log. -/
def programLog : String := "PyCHIP8"

/-- Append a line to the file at a path. -/
def appendLine (path : String) : Append FileTree := fun line tree =>
  match tree.append path (line ++ "\n").toUTF8.toList with
  | .ok tree => (true, tree)
  | .error _ => (false, tree)

/-- Why a record could not be written. -/
inductive WriteError where
  | file (error : FileError)
  | format (error : FormatError)
  deriving DecidableEq, Repr

/-- A log file, the format of its lines, and the lines that are held back. -/
structure FileLog where
  path : String
  format : Format
  held : List String := []

namespace FileLog

/-- A log file at a path; nothing is written before the first record. -/
def create (path : String) (format : Format) : FileLog := ⟨Path.plain path, format, []⟩

/-- Write a record. Errors of the file system hold its line back; a record without a line and a path
    that is no path are errors of the caller. -/
def write (f : FileLog) (r : LogRecord) (tree : FileTree) :
    Except WriteError (FileLog × FileTree) :=
  match f.format.render ⟨programLog, r⟩ with
  | .error e => .error (.format e)
  | .ok line =>
    match tree.locate f.path with
    -- no error of the file system, so the line is not held back over it
    | .error .embeddedNull => .error (.file .embeddedNull)
    | _ =>
      let (held, tree) := emit (appendLine f.path) f.held line tree
      .ok ({ f with held }, tree)

/-- The text of the file, if it is one and holds text; all its lines end in line feeds. A path that
    cannot be looked up at all is an error. -/
def text? (f : FileLog) (tree : FileTree) : Except FileError (Option String) :=
  match tree.read f.path with
  | .ok bytes =>
    .ok ((String.fromUTF8? (ByteArray.mk bytes.toArray)).map fun s =>
      String.ofList (Text.unifyLineEnds s.toList))
  | .error (.nameTooLong path) => .error (.nameTooLong path)
  | .error _ => .ok none

end FileLog

/-- The program's log: the least level of its records, its directory, and its file. -/
structure Setup where
  level : Level
  directory : String
  file : FileLog

namespace Setup

/-- Set the log up: its directory is made. With debugging, all records are kept. -/
def create (debug : Bool) (directory : String) (began : Moment) (tree : FileTree) :
    Except FileError (Setup × FileTree) := do
  let directory := tree.resolve directory
  let tree ← tree.ensureDirectory directory
  let level := if debug then Level.debug else .info
  return (⟨level, directory, .create (Path.join directory began.logFileName) .logFile⟩, tree)

/-- Is a record kept? -/
def keeps (s : Setup) (r : LogRecord) : Bool := s.level.passes r.level

/-- Write a record, if it is kept. -/
def write (s : Setup) (r : LogRecord) (tree : FileTree) : Except WriteError (Setup × FileTree) :=
  if s.keeps r then (fun (file, tree) => ({ s with file }, tree)) <$> s.file.write r tree
  else .ok (s, tree)

end Setup

end Chip8.Log
