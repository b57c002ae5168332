import Chip8.Toml.Lexeme
/-!
Nested tables under construction. A table is found by its path, made on the way if it is missing;
marks on paths say which tables were declared and which may not be extended any more.
-/

namespace Chip8.Toml

/-- Change the table at a path, making the tables on the way that are missing. A list on the way
    stands for its last item, if `throughLists` allows that. There is no table behind other values;
    then, and if the change is refused, the answer is `none`. -/
def changeAt (throughLists : Bool) (change : Table → Option Table) :
    List String → Table → Option Table
  | [], t => change t
  | k :: ks, t =>
    match t.get? k with
    | none => (fun inner => t.insert k (.table inner)) <$> changeAt throughLists change ks []
    | some (.table inner) =>
      (fun inner => t.insert k (.table inner)) <$> changeAt throughLists change ks inner
    | some (.list items) =>
      if throughLists then
        match items.getLast? with
        | some (.table inner) =>
          (fun inner => t.insert k (.list (items.dropLast ++ [.table inner]))) <$>
            changeAt throughLists change ks inner
        | _ => none
      else none
    | some _ => none

/-- Put a value under a key that is new. -/
def addNew (k : String) (value : Value) (t : Table) : Option Table :=
  match t.get? k with
  | some _ => none
  | none => some (t.insert k value)

/-- Add an empty table to the list under a key, which may be new. -/
def addItem (k : String) (t : Table) : Option Table :=
  match t.get? k with
  | none => some (t.insert k (.list [.table []]))
  | some (.list items) => some (t.insert k (.list (items ++ [.table []])))
  | some _ => none

/-! ## Marks -/

/-- What a mark says about a path. -/
inductive Mark where
  /-- The table was declared; it may not be declared again. -/
  | declared
  /-- The value is complete, and so is everything in it. -/
  | frozen
  deriving DecidableEq, Repr

/-- The marks set so far. -/
abbrev Marks := List (Mark × List String)

/-- Is the path marked? A frozen table marks what is in it, too. -/
def Marks.has (marks : Marks) (mark : Mark) (path : List String) : Bool :=
  marks.any fun (m, p) =>
    m == mark && (p == path || (m == .frozen && p.isPrefixOf path))

/-- Forget the marks of a path and of what is in it. -/
def Marks.forget (marks : Marks) (path : List String) : Marks :=
  marks.filter fun (_, p) => !path.isPrefixOf p

end Chip8.Toml
