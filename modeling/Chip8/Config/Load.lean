import Chip8.Config.Settings
import Chip8.Files.Tree
import Chip8.Log.Record
import Chip8.Text.Utf8
import Chip8.Toml.Document
/-!
Loading a configuration file. A file that cannot be read, is not TOML or breaks a rule is logged,
and the defaults are used in its place.
-/

namespace Chip8.Config

/-- What loading does not recover from. -/
inductive LoadError where
  | file (error : FileError)
  | rule (error : Error)
  /-- The values of the file are nested too deep. -/
  | tooDeep

/-- The sentence about it. -/
def LoadError.message : LoadError → String
  | file e => e.message
  | rule e => e.message
  | tooDeep => "maximum recursion depth exceeded"

/-- The configuration that a file's bytes hold, or why they hold none: in a sentence if that is to be
    logged, or as an error. -/
def ofBytes (bytes : List UInt8) : Except (String ⊕ LoadError) Table :=
  match Text.decodeUtf8 bytes with
  | .error e => .error (.inl e.message)
  | .ok text =>
    match Toml.parse text with
    | .error (.mistake message) => .error (.inl message)
    | .error .tooDeep => .error (.inr .tooDeep)
    | .ok overrides =>
      match build overrides with
      -- most broken rules are logged; the others go through to the caller
      | .error e => .error (if e.recovered then .inl e.message else .inr (.rule e))
      | .ok t => .ok t

/-- The record of a file that was not used. -/
def refusal (path message : String) : LogRecord :=
  ⟨.error, "Failed to load config " ++ path ++ ": " ++ message⟩

/-- The configuration of the file at a path that is there, and what is logged. -/
def loadFile (disk : Disk) (path : String) : Except LoadError (Table × List LogRecord) :=
  match disk.read path with
  | .error e => .ok (defaults, [refusal path e.message])
  | .ok bytes =>
    match ofBytes bytes with
    | .ok t => .ok (t, [])
    | .error (.inl message) => .ok (defaults, [refusal path message])
    | .error (.inr e) => .error e

/-- The path of the file that is loaded when none is named. -/
def usualPath (disk : Disk) : String := Path.join disk.home "config.toml"

/-- Load the configuration at a path, or at the usual one. If there is no file, the defaults
    hold. -/
def load (disk : Disk) (path : Option String) : Except LoadError (Table × List LogRecord) :=
  let path := match path with
    | some p => Path.plain p
    | none => usualPath disk
  match disk.isThere path with
  -- a path that cannot even be looked up is an error, and not a file that is missing
  | .error e => .error (.file e)
  | .ok false => .ok (defaults, [])
  | .ok true => loadFile disk path

end Chip8.Config
