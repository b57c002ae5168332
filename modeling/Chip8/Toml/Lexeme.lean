import Chip8.Text.Digit
import Chip8.Text.Quoted
import Chip8.Value
/-!
The smallest parts of a TOML document: blanks, comments, strings, keys and numbers. A reader takes
the characters that are left and answers with what it read and what is left then; where it is stuck
it says why and how many characters were left at that place.
-/

namespace Chip8.Toml

/-- Why reading stopped. -/
inductive Stuck where
  /-- Something is wrong at the place where `left` characters were left. -/
  | place (reason : String) (left : Nat)
  /-- A value cannot be taken, wherever it stands. -/
  | value (reason : String)
  /-- Lists and inline tables are nested too deep. -/
  | depth
  deriving DecidableEq, Repr

/-- A reader of one part. -/
abbrev Reader (α : Type) := List Char → Except Stuck (α × List Char)

/-- Stuck at the place where `cs` is left. -/
def stuck {α : Type} (reason : String) (cs : List Char) : Except Stuck α :=
  .error (.place reason cs.length)

/-! ## Classes of characters -/

/-- A blank within a line. -/
def isBlank (c : Char) : Bool := c == ' ' || c == '\t'

/-- A blank or the end of a line. -/
def isSpace (c : Char) : Bool := isBlank c || c == '\n'

/-- A control character that may not stand in a string or a comment. -/
def isForbidden (c : Char) : Bool := (c.toNat < 32 && c != '\t') || c.toNat == 127

/-- A control character that may not stand in a string of several lines. -/
def isForbiddenInLines (c : Char) : Bool := isForbidden c && c != '\n'

/-- A character of a key without quotes. -/
def isBareKey (c : Char) : Bool := c.isAlphanum || c == '-' || c == '_'

/-- A character that a key can begin with. -/
def isKeyStart (c : Char) : Bool := isBareKey c || c == '"' || c == '\''

/-- Drop the blanks of this line. -/
def skipBlanks (cs : List Char) : List Char := cs.dropWhile isBlank

/-- Is `start` what comes next? If so, what follows it. -/
def after? (start : List Char) (cs : List Char) : Option (List Char) :=
  if start.isPrefixOf cs then some (cs.drop start.length) else none

/-! ## Comments -/

/-- Skip a comment up to the end of the line. -/
def skipComment (cs : List Char) : Except Stuck (List Char) :=
  match cs with
  | '#' :: rest =>
    let body := rest.takeWhile (· != '\n')
    match body.find? isForbidden with
    | some c =>
      stuck ("Found invalid character " ++ Text.quoted (String.singleton c))
        (rest.dropWhile fun d => !isForbidden d)
    | none => .ok (rest.drop body.length)
  | _ => .ok cs

/-- Skip blanks, line ends and comments, as between the items of a list. -/
def skipFiller : Nat → List Char → Except Stuck (List Char)
  | 0, cs => .ok cs
  | fuel + 1, cs => do
    let rest ← skipComment (cs.dropWhile isSpace)
    if rest.length = cs.length then return rest else skipFiller fuel rest

/-! ## Strings -/

/-- A code point written as `count` hexadecimal digits. -/
def hexEscape (count : Nat) : Reader Char := fun cs =>
  let digits := cs.take count
  if digits.length = count && digits.all fun c => c.isDigit || ('a' ≤ c && c ≤ 'f') ||
      ('A' ≤ c && c ≤ 'F') then
    let value := digits.foldl (fun n c =>
      n * 16 + (if c.isDigit then c.toNat - 48 else c.toLower.toNat - 87)) 0
    if value.isValidChar then .ok (Char.ofNat value, cs.drop count)
    else stuck "Escaped character is not a Unicode scalar value" (cs.drop count)
  else stuck "Invalid hex value" cs

/-- What follows a backslash; `none` if it stands for nothing. -/
def escape (lines : Bool) : Reader (Option Char) := fun cs =>
  match cs with
  | 'b' :: rest => .ok (some '\x08', rest)
  | 't' :: rest => .ok (some '\t', rest)
  | 'n' :: rest => .ok (some '\n', rest)
  | 'f' :: rest => .ok (some '\x0c', rest)
  | 'r' :: rest => .ok (some '\r', rest)
  | '"' :: rest => .ok (some '"', rest)
  | '\\' :: rest => .ok (some '\\', rest)
  | 'u' :: rest => (fun (c, rest) => (some c, rest)) <$> hexEscape 4 rest
  | 'U' :: rest => (fun (c, rest) => (some c, rest)) <$> hexEscape 8 rest
  | c :: rest =>
    if lines && isSpace c then
      let next := if c == '\n' then c :: rest else skipBlanks rest
      match next with
      | [] => .ok (none, [])
      | '\n' :: next => .ok (none, next.dropWhile isSpace)
      | next => stuck "Unescaped '\\' in a string" next
    else stuck "Unescaped '\\' in a string" rest
  | [] => stuck "Unescaped '\\' in a string" []

/-- The rest of a string in double quotes; `lines` allows several lines and ends at three quotes.
    The fuel bounds the number of characters. -/
def basicString (lines : Bool) : Nat → List Char → Reader String
  | 0, _, cs => stuck "Unterminated string" cs
  | fuel + 1, read, cs =>
    match cs with
    | [] => stuck "Unterminated string" []
    | '"' :: rest =>
      if lines then
        match after? ['"', '"'] rest with
        | some rest => .ok (String.ofList read.reverse, rest)
        | none => basicString lines fuel ('"' :: read) rest
      else .ok (String.ofList read.reverse, rest)
    | '\\' :: rest => do
      let (c, rest) ← escape lines rest
      basicString lines fuel (c.toList ++ read) rest
    | c :: rest =>
      if (if lines then isForbiddenInLines c else isForbidden c) then
        stuck ("Illegal character " ++ Text.quoted (String.singleton c)) cs
      else basicString lines fuel (c :: read) rest

/-- The characters before `mark`, none of which may be forbidden. -/
def until? (mark : List Char) (forbidden : Char → Bool) : Nat → List Char → Reader String
  | 0, _, cs => stuck ("Expected " ++ Text.quoted (String.ofList mark)) cs
  | fuel + 1, read, cs =>
    match after? mark cs with
    | some rest => .ok (String.ofList read.reverse, rest)
    | none =>
      match cs with
      | [] => stuck ("Expected " ++ Text.quoted (String.ofList mark)) []
      | c :: rest => until? mark forbidden fuel (c :: read) rest

/-- A string in single quotes, up to `mark`. If the mark is there, a forbidden character before it
    is to blame. -/
def literalString (mark : List Char) (forbidden : Char → Bool) : Reader String := fun cs => do
  let (body, rest) ← until? mark forbidden (cs.length + 1) [] cs
  match body.toList.find? forbidden with
  | some c =>
    stuck ("Found invalid character " ++ Text.quoted (String.singleton c))
      (cs.dropWhile fun d => !forbidden d)
  | none => return (body, rest)

/-- Up to two more quotes belong to the text of a string that ends in three. -/
def moreQuotes (quote : Char) (body : String) (rest : List Char) : String × List Char :=
  match rest with
  | c :: d :: rest' =>
    if c == quote && d == quote then (body.push quote |>.push quote, rest')
    else if c == quote then (body.push quote, d :: rest')
    else (body, rest)
  | [c] => if c == quote then (body.push quote, []) else (body, rest)
  | [] => (body, rest)

/-- A string of any kind; the next character is a quote. -/
def anyString : Reader String := fun cs =>
  let body (cs : List Char) : List Char := (after? ['\n'] cs).getD cs
  match cs with
  | '"' :: '"' :: '"' :: rest => do
    let (text, rest) ← basicString true (rest.length + 1) [] (body rest)
    return moreQuotes '"' text rest
  | '"' :: rest => basicString false (rest.length + 1) [] rest
  | '\'' :: '\'' :: '\'' :: rest => do
    let (text, rest) ← literalString ['\'', '\'', '\''] isForbiddenInLines (body rest)
    return moreQuotes '\'' text rest
  | '\'' :: rest => literalString ['\''] isForbidden rest
  | _ => stuck "Invalid value" cs

/-! ## Keys -/

/-- One part of a key. -/
def keyPart : Reader String := fun cs =>
  match cs with
  | '"' :: rest => basicString false (rest.length + 1) [] rest
  | '\'' :: rest => literalString ['\''] isForbidden rest
  | c :: _ =>
    if isBareKey c then
      .ok (String.ofList (cs.takeWhile isBareKey), cs.dropWhile isBareKey)
    else stuck "Invalid initial character for a key part" cs
  | [] => stuck "Invalid initial character for a key part" []

/-- The further parts of a key, each after a point. -/
def moreKeyParts : Nat → List String → Reader (List String)
  | 0, parts, cs => .ok (parts, cs)
  | fuel + 1, parts, cs =>
    match cs with
    | '.' :: rest => do
      let (part, rest) ← keyPart (skipBlanks rest)
      moreKeyParts fuel (parts ++ [part]) (skipBlanks rest)
    | _ => .ok (parts, cs)

/-- A key: parts joined by points. -/
def key : Reader (List String) := fun cs => do
  let (part, rest) ← keyPart cs
  moreKeyParts (rest.length + 1) [part] (skipBlanks rest)

/-- A key as it is named in messages. -/
def keyText (parts : List String) : String :=
  match parts with
  | [part] => "(" ++ Text.quoted part ++ ",)"
  | _ => "(" ++ ", ".intercalate (parts.map Text.quoted) ++ ")"

/-! ## Numbers -/

/-- Digits of a class with single underscores between them. -/
def digitRun (isDigit : Char → Bool) : List Char → List Char × List Char
  | c :: '_' :: d :: rest =>
    if isDigit c then
      if isDigit d then
        let (more, rest) := digitRun isDigit (d :: rest)
        (c :: more, rest)
      else ([c], '_' :: d :: rest)
    else ([], c :: '_' :: d :: rest)
  | c :: rest =>
    if isDigit c then
      let (more, rest) := digitRun isDigit rest
      (c :: more, rest)
    else ([], c :: rest)
  | [] => ([], [])

/-- The number that digits stand for. -/
def digitsValue (base : Nat) (digits : List Char) : Nat :=
  digits.foldl (fun n c =>
    n * base + (if c.isDigit then c.toNat - 48 else c.toLower.toNat - 87)) 0

/-- A hexadecimal, octal or binary whole number. -/
def prefixedNumber? : List Char → Option (Value × List Char)
  | '0' :: mark :: rest =>
    let read (base : Nat) (isDigit : Char → Bool) : Option (Value × List Char) :=
      match digitRun isDigit rest with
      | ([], _) => none
      | (digits, rest) => some (.int (digitsValue base digits), rest)
    if mark == 'x' then
      read 16 fun c => c.isDigit || ('a' ≤ c && c ≤ 'f') || ('A' ≤ c && c ≤ 'F')
    else if mark == 'b' then read 2 fun c => c == '0' || c == '1'
    else if mark == 'o' then read 8 fun c => '0' ≤ c && c ≤ '7'
    else none
  | _ => none

/-- The digits after a point, if there is one with digits. -/
def fraction (cs : List Char) : List Char × List Char :=
  match cs with
  | '.' :: rest =>
    match digitRun Char.isDigit rest with
    | ([], _) => ([], cs)
    | (digits, rest) => (digits, rest)
  | _ => ([], cs)

/-- The exponent after its mark, if there is one with digits. -/
def exponent? (cs : List Char) : Option Int × List Char :=
  match cs with
  | mark :: rest =>
    if mark == 'e' || mark == 'E' then
      let (negative, body) := match rest with
        | '-' :: body => (true, body)
        | '+' :: body => (false, body)
        | body => (false, body)
      match digitRun Char.isDigit body with
      | ([], _) => (none, cs)
      | (digits, rest) =>
        let n : Int := digitsValue 10 digits
        (some (if negative then -n else n), rest)
    else (none, cs)
  | [] => (none, cs)

/-- A decimal number as it is written. -/
structure DecimalText where
  negative : Bool
  whole : List Char
  places : List Char
  power : Option Int

/-- A decimal number; no zero leads it. -/
def decimalText? (cs : List Char) : Option (DecimalText × List Char) :=
  let (negative, body) := match cs with
    | '-' :: body => (true, body)
    | '+' :: body => (false, body)
    | body => (false, body)
  let whole? : Option (List Char × List Char) := match body with
    | '0' :: rest => some (['0'], rest)
    | c :: _ => if c.isDigit then some (digitRun Char.isDigit body) else none
    | [] => none
  whole?.map fun (whole, rest) =>
    let (places, rest) := fraction rest
    let (power, rest) := exponent? rest
    (⟨negative, whole, places, power⟩, rest)

/-- The most digits that a whole number may have. -/
def maxDigits : Nat := 4300

/-- What is said about a whole number of too many digits. -/
def tooManyDigits (count : Nat) : String :=
  s!"Exceeds the limit ({maxDigits} digits) for integer string conversion: value has {count} " ++
    "digits; use sys.set_int_max_str_digits() to increase the limit"

/-- The value of a decimal number: a double if it has a fraction or an exponent, else a whole
    number. -/
def DecimalText.value (d : DecimalText) : Except Stuck Value :=
  if d.places.isEmpty && d.power.isNone then
    if maxDigits < d.whole.length then .error (.value (tooManyDigits d.whole.length))
    else
      let n : Int := digitsValue 10 d.whole
      .ok (.int (if d.negative then -n else n))
  else
    .ok (.float (Decimal.toFloat d.negative (digitsValue 10 (d.whole ++ d.places))
      (d.power.getD 0 - d.places.length)))

/-- An infinity or an undefined number. -/
def specialNumber? (cs : List Char) : Option (Value × List Char) :=
  let (negative, body) := match cs with
    | '-' :: body => (true, body)
    | '+' :: body => (false, body)
    | body => (false, body)
  match after? ['i', 'n', 'f'] body with
  | some rest => some (.float (if negative then -1.0 / 0.0 else 1.0 / 0.0), rest)
  | none => (after? ['n', 'a', 'n'] body).map fun rest => (.float (0.0 / 0.0), rest)

end Chip8.Toml
