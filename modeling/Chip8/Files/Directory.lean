import Chip8.Files.Tree
/-!
Making and removing directories. An operation that fails half-way leaves what it did till then.
-/

namespace Chip8.FileTree

/-- The names of a path without the slashes at its end. -/
def withoutSlashes (names : List String) : List String :=
  (names.reverse.dropWhile (· == "")).reverse

/-- Make a directory in one that is there. There must be nothing at its path yet. -/
def makeDirectory (t : FileTree) (path : String) : Except FileError FileTree := do
  let place ← t.locateBy withoutSlashes path
  match t.at? place with
  | some _ => throw (.occupied path)
  | none => return t.put place .directory

/-- Make directories one after another. Those that are there are passed over, as is a file before
    the last path: the paths below it fail. -/
def makeEach (t : FileTree) : List String → Except FileError Unit × FileTree
  | [] => (.ok (), t)
  | path :: rest =>
    match t.makeDirectory path, t.find path, rest with
    | .ok t, _, _ => makeEach t rest
    | _, .ok .directory, _ => makeEach t rest
    | _, .ok (.file _), _ :: _ => makeEach t rest
    | .error e, _, _ => (.error e, t)

/-- Make the directory at a path and those that lead to it. -/
def makeDirectories (t : FileTree) (path : String) : Except FileError Unit × FileTree :=
  t.makeEach (Path.beginnings path)

/-- Make the directory at a path and those that lead to it. What is wrong with the way as far as it
    is there is said of the whole path. -/
def ensureDirectory (t : FileTree) (path : String) : Except FileError FileTree :=
  let (answer, made) := t.makeDirectories path
  match t.locate path with
  | .error (.notFound _) | .ok _ => answer.map fun _ => made
  | .error e => .error e

/-- Write a file, making the directories that lead to it. -/
def write (t : FileTree) (path : String) (bytes : List UInt8) : Except FileError FileTree := do
  let t ← match (Path.beginnings path).dropLast.getLast? with
    | some parent => t.ensureDirectory parent
    | none => pure t
  t.change path fun _ => bytes

/-- The tree without what stands below a place. -/
def emptied (t : FileTree) (place : List String) : FileTree :=
  { t with nodes := t.nodes.filter fun e => !place.isPrefixOf e.1 || e.1 == place }

/-- Remove the directory at a path and what is below. It is emptied first, so that a way out of it
    and back is lost; a path that ends in a single point can be emptied only. -/
def removeDirectory (t : FileTree) (path : String) : Except FileError Unit × FileTree :=
  match t.lookUp path with
  | .error e => (.error e, t)
  | .ok (_, .file _) => (.error (.notDirectory path), t)
  | .ok (place, .directory) =>
    let t := t.emptied place
    match t.locate path with
    | .error e => (.error e, t)
    | .ok _ =>
      if (withoutSlashes (t.route path).2).getLast? == some "." then (.error (.badEnding path), t)
      else (.ok (), { t with nodes := t.nodes.filter fun e => e.1 != place })

/-- A tree whose working directory is at a place and empty. -/
def empty (home : List String) : FileTree :=
  ⟨home, (List.range home.length).map fun k => (home.take (k + 1), .directory)⟩

end Chip8.FileTree
