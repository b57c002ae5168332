import Chip8.Text.Columns
import Chip8.Text.Lines
/-!
Lines of a limited width. A line is broken before a word that does not fit any more; a word that is
too long for any line is cut between its clusters. Tabs go to the next stop first.
-/

namespace Chip8.Text

/-- The blanks, the visible characters and the blanks after them that come first. -/
def firstWord (cs : List Char) : List Char × List Char :=
  let lead := cs.takeWhile isSpace
  let rest := cs.dropWhile isSpace
  let body := rest.takeWhile fun c => !isSpace c
  let rest := rest.dropWhile fun c => !isSpace c
  (lead ++ body ++ rest.takeWhile isSpace, rest.dropWhile isSpace)

/-- The words of a line, each with the blanks around it. The fuel bounds their number. -/
def words : Nat → List Char → List (List Char)
  | 0, _ => []
  | fuel + 1, cs =>
    match firstWord cs with
    | (word, rest) => if word.isEmpty then [] else word :: words fuel rest

/-- Pieces of at most `width` columns, the first of which is `piece` with `used` columns so far. -/
def cutFrom (width : Nat) (piece : List Char) (used : Nat) : List Cluster → List (List Char)
  | [] => if used = 0 then [] else [piece]
  | c :: rest =>
    if width < used + c.columns then piece :: cutFrom width c.chars c.columns rest
    else cutFrom width (piece ++ c.chars) (used + c.columns) rest

/-- A word in pieces of at most `width` columns. -/
def cut (width : Nat) (word : List Char) : List (List Char) := cutFrom width [] 0 (clusters word)

/-- Put words into lines, one of which is being filled and has `used` columns so far. -/
def fillLines (width : Nat) (line : List Char) (used : Nat) : List (List Char) → List (List Char)
  | [] => [line]
  | word :: rest =>
    if used + columns (trimEnd word) ≤ width then
      fillLines width (line ++ word) (used + columns word) rest
    else if width < columns (trimEnd word) then
      let pieces := cut width word
      let last := pieces.getLastD []
      let done := if line.isEmpty then pieces.dropLast else line :: pieces.dropLast
      done ++ fillLines width last (columns last) rest
    else line :: fillLines width word (columns word) rest

/-- The distance of tab stops. -/
def tabStop : Nat := 8

/-- Tabs as spaces: at least one, and up to the next stop. `part` is what stands between the stop at
    `column` and the text. -/
def expandTabs (column : Nat) (part : List Char) : List Char → List Char
  | [] => part
  | c :: rest =>
    if c == '\t' then
      let part := part ++ [' ']
      let column := column + columns part
      let gap := (tabStop - column % tabStop) % tabStop
      part ++ List.replicate gap ' ' ++ expandTabs (column + gap) [] rest
    else expandTabs column (part ++ [c]) rest

/-- A line without the blanks beyond `width` characters. -/
def dropBeyond (width : Nat) (cs : List Char) : List Char :=
  if width < cs.length then cs.take (max width (trimEnd cs).length) else cs

/-- The lines that a line of text becomes. -/
def wrap (width : Nat) (line : String) : List String :=
  let cs := expandTabs 0 [] line.toList
  (fillLines width [] 0 (words cs.length cs)).map fun l => String.ofList (dropBeyond width l)

/-- A line in the middle of `width` columns; an odd column stays on the right. -/
def center (width : Nat) (line : String) : String :=
  let cs := trimEnd line.toList
  let room := width - columns cs
  String.ofList (List.replicate (room / 2) ' ' ++ cs ++ List.replicate (room - room / 2) ' ')

end Chip8.Text
