/-!
A log file that may not be writable for a while. Lines that could not be appended are held back, and
tried again, oldest first, before the next line is appended.
-/

namespace Chip8.Log

variable {σ : Type}

/-- An attempt to append a line to a file in the world `σ`: whether it went well, and the world
    then. -/
abbrev Append (σ : Type) := String → σ → Bool × σ

/-- Try lines one after another. The answer holds those that could not be appended, in order. -/
def appendAll (append : Append σ) : List String → σ → List String × σ
  | [], world => ([], world)
  | line :: rest, world =>
    let (done, world) := append line world
    let (failed, world) := appendAll append rest world
    (if done then failed else line :: failed, world)

/-- Append a line, trying the held ones first. The answer holds the lines that are held then. -/
def emit (append : Append σ) (held : List String) (line : String) (world : σ) :
    List String × σ :=
  let (held, world) := appendAll append held world
  let (done, world) := append line world
  (if done then held else held ++ [line], world)

end Chip8.Log
