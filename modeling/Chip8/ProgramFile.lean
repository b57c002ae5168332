import Chip8.Files.Tree
import Chip8.Program
/-!
Programs read from files.
-/

namespace Chip8.Program

/-- The program in the file at a path. Errors of the file system refuse the image like any other;
    a path that is no path is passed on. -/
def ofFile (disk : Disk) (path : String) : Except FileError (Except ImageError Program) :=
  match disk.read path with
  | .error e =>
    if e.fromSystem then .ok (.error (.unreadable path e.message)) else .error e
  | .ok bytes => .ok ((fun p => { p with file := path }) <$> ofBytes bytes)

end Chip8.Program
