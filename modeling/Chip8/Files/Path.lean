/-!
Path texts: their parts between slashes, the plain form of a path, and how paths are joined.
-/

namespace Chip8.Path

/-- Does the path begin at the top of the file system? -/
def isAbsolute (p : String) : Bool := p.toList.head? == some '/'

/-- The parts between slashes. -/
def split : List Char → List (List Char)
  | [] => [[]]
  | '/' :: rest => [] :: split rest
  | c :: rest =>
    match split rest with
    | part :: parts => (c :: part) :: parts
    | [] => [[c]]

/-- The parts of a path that name something: empty ones and single points are left out. -/
def parts (p : String) : List String :=
  ((split p.toList).map String.ofList).filter fun part => part != "" && part != "."

/-- The slashes that an absolute path begins with: two are kept as they are, more count as one. -/
def rootText (p : String) : String :=
  match p.toList with
  | '/' :: '/' :: '/' :: _ => "/"
  | '/' :: '/' :: _ => "//"
  | '/' :: _ => "/"
  | _ => ""

/-- The plain form of a path: no empty parts, no single points, no slash at the end. -/
def plain (p : String) : String :=
  let text := rootText p ++ "/".intercalate (parts p)
  if text.isEmpty then "." else text

/-- `name` below the directory `base`; an absolute name stands for itself. -/
def join (base name : String) : String :=
  if isAbsolute name then plain name
  else
    let p := plain name
    if p == "." then plain base else plain (base ++ "/" ++ p)

/-- The last part of a path. -/
def fileName (p : String) : String := (parts p).getLastD ""

/-- The beginnings of a path that end where a name does, the whole path last. -/
def beginningsFrom (read : List Char) : List Char → List (List Char)
  | [] => [read]
  | c :: rest =>
    let read := read ++ [c]
    let more := rest.head? == some '/' && rest.any (· != '/')
    if c != '/' && more then read :: beginningsFrom read rest else beginningsFrom read rest

/-- The paths of the directories that lead to what a path names, and the path itself. -/
def beginnings (p : String) : List String := (beginningsFrom [] p.toList).map String.ofList

end Chip8.Path
