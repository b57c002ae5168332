import Chip8.Text.Digit
import Chip8.Text.Picture
/-!
Marked-up text, as titles are written: styles in square brackets, which are not shown, and names of
pictures between colons. A backslash before a bracket makes it an ordinary one.
-/

namespace Chip8.Text.Markup

/-- Can a style begin with the character? -/
def beginsStyle (c : Char) : Bool := c.isLower || c == '#' || c == '/' || c == '@'

/-- The style after an opening bracket, and what follows the closing one. -/
def style? : List Char → Option (List Char × List Char)
  | [] => none
  | c :: rest =>
    if beginsStyle c then
      let more := rest.takeWhile fun c => c != '[' && c != ']'
      match rest.drop more.length with
      | ']' :: rest => some (c :: more, rest)
      | _ => none
    else none

/-- Two backslashes before a style stand for one; one more makes the style ordinary text. -/
def shownStyle (backslashes : Nat) (style : List Char) : List (List Char) :=
  [List.replicate (backslashes / 2) '\\',
    if backslashes % 2 = 0 then [] else '[' :: style ++ [']']]

/-- The texts between styles, the first of which begins with `part`. The fuel bounds the number of
    steps. -/
def parts : Nat → List Char → List Char → List (List Char)
  | 0, part, cs => [part ++ cs]
  | _, part, [] => [part]
  | fuel + 1, part, c :: rest =>
    let slashes := (c :: rest).takeWhile (· == '\\')
    match (c :: rest).dropWhile (· == '\\') with
    | '[' :: rest =>
      match style? rest with
      | some (style, rest) => part :: shownStyle slashes.length style ++ parts fuel [] rest
      | none => parts fuel (part ++ slashes ++ ['[']) rest
    | after =>
      if slashes.isEmpty then parts fuel (part ++ [c]) rest else parts fuel (part ++ slashes) after

/-- Ordinary brackets without their backslashes. -/
def unescape : List Char → List Char
  | '\\' :: '[' :: rest => '[' :: unescape rest
  | c :: rest => c :: unescape rest
  | [] => []

/-- The ending of a name, if it has it, is taken off. -/
def withoutEnding? (ending : String) (name : List Char) : Option (List Char) :=
  if ending.toList.isSuffixOf name then some (name.take (name.length - ending.length)) else none

/-- The picture of a name that may end in the way in which it is to be drawn. -/
def picture? (name : List Char) : Option (List Char) :=
  match withoutEnding? "-emoji" name, withoutEnding? "-text" name with
  | some name, _ => (Text.picture? name).map (· ++ ['\ufe0f'])
  | none, some name => (Text.picture? name).map (· ++ ['\ufe0e'])
  | none, none => Text.picture? name

/-- Names between colons become pictures; other text stays. The fuel bounds the number of steps. -/
def showPictures : Nat → List Char → List Char
  | 0, cs => cs
  | _, [] => []
  | fuel + 1, c :: rest =>
    if c == ':' then
      let name := rest.takeWhile fun c => c != ':' && !isSpace c
      match rest.drop name.length with
      | ':' :: rest =>
        (picture? name).getD (':' :: name ++ [':']) ++ showPictures fuel rest
      | _ => ':' :: showPictures fuel rest
    else c :: showPictures fuel rest

/-- Controls that would move the cursor: the bell, the steps back and down, and the returns. -/
def isCursorControl (c : Char) : Bool := c.toNat ∈ [7, 8, 11, 12, 13]

/-- What is shown of marked-up text. -/
def shown (markup : String) : String :=
  let cs := markup.toList
  let texts := (parts cs.length [] cs).map fun part =>
    let part := unescape part
    showPictures part.length part
  String.ofList (texts.flatten.filter fun c => !isCursorControl c)

end Chip8.Text.Markup
