import Chip8.Toml.Moment
import Chip8.Toml.Nest
/-!
TOML documents: values, key/value pairs, table declarations. `parse` answers with the table that a
document stands for, or with the first mistake and its line and column. A number called `fuel`
bounds the count of parts; twice the length of the document is enough, since every two calls take a
character. Another called `room` bounds the depth: a list takes up two of it for what it holds, and
an inline table three.
-/

namespace Chip8.Toml

/-! ## Values -/

/-- The text of the error for a value that may not be changed any more. -/
def frozenText (path : List String) : String := "Cannot mutate immutable namespace " ++ keyText path

/-- Is a value a table or a list? -/
def isContainer : Value → Bool
  | .table _ => true
  | .list _ => true
  | _ => false

/-- A value that is not a container. -/
def scalar : Reader Value := fun cs =>
  match cs with
  | '"' :: _ | '\'' :: _ => (fun (s, rest) => (.text s, rest)) <$> anyString cs
  | _ =>
    match after? ['t', 'r', 'u', 'e'] cs, after? ['f', 'a', 'l', 's', 'e'] cs with
    | some rest, _ => .ok (.bool true, rest)
    | _, some rest => .ok (.bool false, rest)
    | none, none => do
      -- a date begins like a number, so moments are tried first
      match ← moment? cs, prefixedNumber? cs <|> specialNumber? cs, decimalText? cs with
      | some answer, _, _ => return answer
      | none, some answer, _ => return answer
      | none, none, some (number, rest) => return (← number.value, rest)
      | none, none, none => stuck "Invalid value" cs

mutual

/-- A value of any kind. -/
def value (room : Nat) : Nat → Reader Value
  | 0, cs => stuck "Invalid value" cs
  | fuel + 1, cs =>
    match cs with
    | '[' :: rest =>
      if room < 2 then .error .depth
      else do
        let rest ← skipFiller (rest.length + 1) rest
        match rest with
        | ']' :: rest => return (.list [], rest)
        | _ => items (room - 2) fuel [] rest
    | '{' :: rest =>
      if room < 3 then .error .depth
      else
        match skipBlanks rest with
        | '}' :: rest => .ok (.table [], rest)
        | rest => pairs (room - 3) fuel [] [] rest
    | _ => scalar cs

/-- The items of a list, from one on. -/
def items (room : Nat) : Nat → List Value → Reader Value
  | 0, _, cs => stuck "Unclosed array" cs
  | fuel + 1, read, cs => do
    let (item, rest) ← value room fuel cs
    let rest ← skipFiller (rest.length + 1) rest
    match rest with
    | ']' :: rest => return (.list (read ++ [item]), rest)
    | ',' :: rest => do
      let rest ← skipFiller (rest.length + 1) rest
      match rest with
      | ']' :: rest => return (.list (read ++ [item]), rest)
      | rest => items room fuel (read ++ [item]) rest
    | rest => stuck "Unclosed array" rest

/-- The pairs of an inline table, from one on. -/
def pairs (room : Nat) : Nat → Table → Marks → Reader Value
  | 0, _, _, cs => stuck "Unclosed inline table" cs
  | fuel + 1, read, marks, cs => do
    let ((path, v), rest) ← keyValue room fuel cs
    let stem := path.getLastD ""
    if marks.has .frozen path then stuck (frozenText path) rest
    else
      -- tables on the way are made first, so that a value in the way is told apart from a key that is
      -- there already
      match changeAt false some path.dropLast read with
      | none => stuck "Cannot overwrite a value" rest
      | some read =>
        match changeAt false (addNew stem v) path.dropLast read with
        | none => stuck ("Duplicate inline table key " ++ Text.quoted stem) rest
        | some read =>
          match skipBlanks rest with
          | '}' :: rest => return (.table read, rest)
          | ',' :: rest =>
            -- what was written in braces or brackets may not be added to later
            let marks := if isContainer v then (.frozen, path) :: marks else marks
            pairs room fuel read marks (skipBlanks rest)
          | rest => stuck "Unclosed inline table" rest

/-- A key, an equals sign and a value. -/
def keyValue (room : Nat) : Nat → Reader (List String × Value)
  | 0, cs => stuck "Invalid value" cs
  | fuel + 1, cs => do
    let (path, rest) ← key cs
    match rest with
    | '=' :: rest => do
      let (v, rest) ← value room fuel (skipBlanks rest)
      return ((path, v), rest)
    | rest => stuck "Expected '=' after a key in a key/value pair" rest

end

/-! ## Statements -/

/-- A document so far: its table, the marks, the marks that take effect at the next declaration, and
    the path of the table that pairs go to. -/
structure Progress where
  root : Table := []
  marks : Marks := []
  pending : Marks := []
  header : List String := []

/-- The beginnings of a path that are shorter than it, none excepted. -/
def containers (header path : List String) : List (List String) :=
  (List.range (path.length - 1)).map fun k => header ++ path.take (k + 1)

/-- Add a pair to the current table. -/
def addPair (p : Progress) (path : List String) (v : Value) (rest : List Char) :
    Except Stuck Progress :=
  let inner := containers p.header path
  match inner.find? (p.marks.has .declared) with
  | some path => stuck ("Cannot redefine namespace " ++ keyText path) rest
  | none =>
    let parent := p.header ++ path.dropLast
    if p.marks.has .frozen parent then stuck (frozenText parent) rest
    else
      match changeAt true (addNew (path.getLastD "") v) parent p.root with
      | none => stuck "Cannot overwrite a value" rest
      | some root => .ok { p with
          root
          marks := if isContainer v then (.frozen, p.header ++ path) :: p.marks else p.marks
          pending := inner.map ((.declared, ·)) ++ p.pending }

/-- Declare a table; its name and a bracket follow. -/
def declareTable (p : Progress) (cs : List Char) : Except Stuck (Progress × List Char) := do
  let (path, rest) ← key (skipBlanks cs)
  if p.marks.has .declared path || p.marks.has .frozen path then
    stuck ("Cannot declare " ++ keyText path ++ " twice") rest
  else
    match changeAt true some path p.root with
    | none => stuck "Cannot overwrite a value" rest
    | some root =>
      match rest with
      | ']' :: rest =>
        return ({ p with root, marks := (.declared, path) :: p.marks, header := path }, rest)
      | rest => stuck "Expected ']' at the end of a table declaration" rest

/-- Declare the next table of a list; its name and two brackets follow. -/
def declareItem (p : Progress) (cs : List Char) : Except Stuck (Progress × List Char) := do
  let (path, rest) ← key (skipBlanks cs)
  if p.marks.has .frozen path then stuck (frozenText path) rest
  else
    match changeAt true (addItem (path.getLastD "")) path.dropLast p.root with
    | none => stuck "Cannot overwrite a value" rest
    | some root =>
      match rest with
      | ']' :: ']' :: rest =>
        -- tables below the item before may be declared once more below this one
        let marks := (.declared, path) :: p.marks.forget path
        return ({ p with root, marks, header := path }, rest)
      | rest => stuck "Expected ']]' at the end of an array declaration" rest

/-- The room for the depth of a value. -/
def maxRoom : Nat := 988

/-- What stands in a line before a comment: nothing, a pair or a declaration. -/
def statement (p : Progress) (cs : List Char) : Except Stuck (Progress × List Char) :=
  match cs with
  | '[' :: rest =>
    -- tables that were made by dotted keys count as declared from the next header on
    let p := { p with marks := p.pending ++ p.marks, pending := [] }
    match rest with
    | '[' :: rest => declareItem p rest
    | rest => declareTable p rest
  | '#' :: _ => .ok (p, cs)
  | c :: _ =>
    if isKeyStart c then do
      let ((path, v), rest) ← keyValue maxRoom (2 * cs.length + 4) cs
      let p ← addPair p path v rest
      return (p, rest)
    else stuck "Invalid statement" cs
  | [] => .ok (p, [])

/-- The lines of a document. -/
def statements : Nat → Progress → List Char → Except Stuck Progress
  | 0, p, _ => .ok p
  | fuel + 1, p, cs =>
    match skipBlanks cs with
    | [] => .ok p
    | '\n' :: rest => statements fuel p rest
    | cs => do
      let (p, rest) ← statement p cs
      let rest ← skipComment (skipBlanks rest)
      match rest with
      | [] => return p
      | '\n' :: rest => statements fuel p rest
      | rest => stuck "Expected newline or end of document after a statement" rest

/-! ## Documents -/

/-- Line ends of two characters count as one. -/
def unifyLineEnds : List Char → List Char
  | '\r' :: '\n' :: rest => '\n' :: unifyLineEnds rest
  | c :: rest => c :: unifyLineEnds rest
  | [] => []

/-- The place where `left` characters of a document are left. -/
def placeText (document : List Char) (left : Nat) : String :=
  if left = 0 then "end of document"
  else
    let before := document.take (document.length - left)
    let line := before.count '\n' + 1
    let column := (before.reverse.takeWhile (· != '\n')).length + 1
    s!"line {line}, column {column}"

/-- Why a text stands for no table. -/
inductive Error where
  /-- The sentence about the first mistake. -/
  | mistake (message : String)
  | tooDeep
  deriving DecidableEq, Repr

/-- What is wrong with a document and where. -/
def Stuck.error (document : List Char) : Stuck → Error
  | .place reason left => .mistake (reason ++ " (at " ++ placeText document left ++ ")")
  | .value reason => .mistake reason
  | .depth => .tooDeep

/-- The table of a document, or what is wrong with it. -/
def parse (text : List Char) : Except Error Table :=
  let document := unifyLineEnds text
  match statements (document.length + 1) {} document with
  | .ok p => .ok p.root
  | .error e => .error (e.error document)

end Chip8.Toml
