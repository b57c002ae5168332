import Chip8.Files.Path
import Chip8.Text.Quoted
/-!
A tree of files, as the program sees it from its working directory: which paths name a file, which
a directory, and what goes wrong with the others.
-/

namespace Chip8

/-- Why a path could not be used. -/
inductive FileError where
  | notFound (path : String)
  | isDirectory (path : String)
  | notDirectory (path : String)
  | nameTooLong (path : String)
  /-- There is something where a directory was to be made. -/
  | occupied (path : String)
  /-- The path ends in a way that the operation does not allow. -/
  | badEnding (path : String)
  /-- The path holds a character that no path can. -/
  | embeddedNull
  deriving DecidableEq, Repr

/-- The sentence about a path. -/
def FileError.message : FileError → String
  | notFound path => "[Errno 2] No such file or directory: " ++ Text.quoted path
  | isDirectory path => "[Errno 21] Is a directory: " ++ Text.quoted path
  | notDirectory path => "[Errno 20] Not a directory: " ++ Text.quoted path
  | nameTooLong path => "[Errno 36] File name too long: " ++ Text.quoted path
  | occupied path => "[Errno 17] File exists: " ++ Text.quoted path
  | badEnding path => "[Errno 22] Invalid argument: " ++ Text.quoted path
  | embeddedNull => "embedded null byte"

/-- Is the error one of the file system, and not one of the path's text? -/
def FileError.fromSystem : FileError → Bool
  | embeddedNull => false
  | _ => true

/-- Reading files: what the program needs of a file system. -/
structure Disk where
  /-- The path of the working directory. -/
  home : String
  /-- The content of the file at a path. -/
  read : String → Except FileError (List UInt8)
  /-- Is there anything at a path? -/
  isThere : String → Except FileError Bool

/-- What looking for a thing at a path says about it: it is there if it could be read, or if only
    its being a directory kept it from being read. -/
def isThereOf : Except FileError (List UInt8) → Except FileError Bool
  | .ok _ => .ok true
  | .error (.isDirectory _) => .ok true
  | .error (.nameTooLong path) => .error (.nameTooLong path)
  | .error _ => .ok false

/-- A disk of which only the things at some paths are known. -/
def Disk.ofList (home : String) (known : List (String × Except FileError (List UInt8))) : Disk :=
  let read (path : String) : Except FileError (List UInt8) :=
    (known.lookup path).getD (.error (.notFound path))
  ⟨home, read, fun path => isThereOf (read path)⟩

/-- What stands at a place of a tree. -/
inductive FileNode where
  | directory
  | file (bytes : List UInt8)
  deriving DecidableEq, Repr

/-- Places of a tree and what stands there. A place is the list of names on the way from the top;
    `home` is the place of the working directory. -/
structure FileTree where
  home : List String
  nodes : List (List String × FileNode)

namespace FileTree

/-- What stands at a place. The top is always there. -/
def at? (t : FileTree) (place : List String) : Option FileNode :=
  if place.isEmpty then some .directory else t.nodes.lookup place

/-- Put a file or a directory at a place. -/
def put (t : FileTree) (place : List String) (node : FileNode) : FileTree :=
  { t with nodes := (place, node) :: t.nodes.filter fun e => e.1 != place }

/-- The names on the way to a path, and the place where the way begins. -/
def route (t : FileTree) (path : String) : List String × List String :=
  (if Path.isAbsolute path then [] else t.home, (Path.split path.toList).map String.ofList)

/-- Follow names from a place. An empty name, as between two slashes or after the last, and a point
    stay in a directory, two points go up. The last name need not be there. -/
def follow (t : FileTree) (path : String) :
    List String → List String → Except FileError (List String)
  | place, [] => .ok place
  | place, name :: rest =>
    match t.at? place with
    | none => .error (.notFound path)
    | some (.file _) => .error (.notDirectory path)
    | some .directory =>
      if name == "" || name == "." then follow t path place rest
      else if name == ".." then follow t path place.dropLast rest
      else if 255 < name.utf8ByteSize then .error (.nameTooLong path)
      else follow t path (place ++ [name]) rest

/-- The place to which the names lead that `shorten` leaves of a path. -/
def locateBy (shorten : List String → List String) (t : FileTree) (path : String) :
    Except FileError (List String) :=
  if path.toList.contains '\x00' then .error .embeddedNull
  else if path.isEmpty then .error (.notFound path)
  else if 4096 ≤ path.utf8ByteSize then .error (.nameTooLong path)
  else
    let (place, names) := t.route path
    t.follow path place (shorten names)

/-- The place that a path names. -/
def locate (t : FileTree) (path : String) : Except FileError (List String) := t.locateBy id path

/-- The place that a path names and what stands there. -/
def lookUp (t : FileTree) (path : String) : Except FileError (List String × FileNode) := do
  let place ← t.locate path
  match t.at? place with
  | some node => return (place, node)
  | none => throw (.notFound path)

/-- What stands at a path. -/
def find (t : FileTree) (path : String) : Except FileError FileNode := (·.2) <$> t.lookUp path

/-- The content of the file at a path. -/
def read (t : FileTree) (path : String) : Except FileError (List UInt8) := do
  match ← t.find path with
  | .file bytes => return bytes
  | .directory => throw (.isDirectory path)

/-- Is there anything at a path? A path that cannot be looked up at all is an error. -/
def isThere (t : FileTree) (path : String) : Except FileError Bool :=
  match t.find path with
  | .ok _ => .ok true
  | .error (.nameTooLong path) => .error (.nameTooLong path)
  | .error _ => .ok false

/-- Change the file at a path, from no bytes if it is missing; its directory is not made. -/
def change (t : FileTree) (path : String) (f : List UInt8 → List UInt8) :
    Except FileError FileTree := do
  let place ← t.locate path
  match t.at? place with
  | some (.file old) => return t.put place (.file (f old))
  | some .directory => throw (.isDirectory path)
  | none =>
    match t.at? place.dropLast with
    -- a missing file is made, if there is a directory to make it in
    | some .directory => return t.put place (.file (f []))
    | some (.file _) => throw (.notDirectory path)
    | none => throw (.notFound path)

/-- Add to the end of the file at a path. -/
def append (t : FileTree) (path : String) (bytes : List UInt8) : Except FileError FileTree :=
  t.change path (· ++ bytes)

/-- The place of a path without looking at the tree: points are resolved in the text. -/
def textPlace (t : FileTree) (path : String) : List String :=
  let (place, names) := t.route path
  names.foldl (fun place name =>
    if name == "" || name == "." then place
    else if name == ".." then place.dropLast
    else place ++ [name]) place

/-- The path from the top to a place. -/
def pathOf (place : List String) : String := "/" ++ "/".intercalate place

/-- The path from the top to what a path names. -/
def resolve (t : FileTree) (path : String) : String := pathOf (t.textPlace path)

/-- The tree as a disk to read from. -/
def disk (t : FileTree) : Disk := ⟨pathOf t.home, t.read, t.isThere⟩

end FileTree

end Chip8
