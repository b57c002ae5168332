import Chip8.Log.Conversion
import Chip8.Log.Record
import Chip8.Text.Digit
import Chip8.Text.Word
/-!
Formats of log lines: text with conversions such as `%(message)s` or `%(levelname)-8s`, each the name
of a field of the record and how it is written. Two percent signs stand for one.
-/

namespace Chip8.Log

/-- What a record fills the fields with. -/
structure Fields where
  logger : String
  record : LogRecord

/-- The fields and their values, in order. Neither a number for the level nor the place of a program
    where the record was made is noted. -/
def Fields.entries (f : Fields) : List (String × FieldValue) := [
  ("name", .text f.logger),
  ("msg", .text f.record.message),
  ("args", .noItems),
  ("levelname", .text f.record.level.name),
  ("levelno", .absent),
  ("pathname", .text ""),
  ("filename", .text ""),
  ("module", .text ""),
  ("exc_info", .absent),
  ("exc_text", .absent),
  ("stack_info", .absent),
  ("lineno", .number 0),
  ("funcName", .absent),
  ("created", .passing .real),
  ("msecs", .passing .real),
  ("relativeCreated", .passing .real),
  ("thread", .passing .whole),
  ("threadName", .text "MainThread"),
  ("processName", .text "MainProcess"),
  ("process", .passing .whole),
  ("message", .text f.record.message),
  ("asctime", .passing .text)]

/-- The value of a field. -/
def Fields.value? (f : Fields) (name : String) : Option FieldValue := f.entries.lookup name

/-- The record with all its fields. -/
def Fields.whole (f : Fields) : FieldValue :=
  let shown := f.entries.map fun (name, v) => Text.quoted name ++ ": " ++ v.quoted
  .record ("\x7b" ++ ", ".intercalate shown ++ "\x7d")

/-! ## What counts as a format -/

/-- The letters of conversions. -/
def conversionLetters : List Char := "diouxefgcrsa%".toList

/-- Does the character count as the letter of a conversion, in capital letters or small ones? The
    long `s` and the `i`s with and without a dot are taken for their plain forms. -/
def isConversionLetter (c : Char) : Bool :=
  conversionLetters.contains c.toLower || c == 'ſ' || c == 'İ' || c == 'ı'

/-- A number or a star, if there is one, is left behind. -/
def skipNumber : List Char → List Char
  | '*' :: rest => rest
  | cs => cs.dropWhile fun c => (Text.digitValue? c).isSome

/-- A point with a number or a star, if there is one, is left behind. -/
def skipPrecision : List Char → List Char
  | '.' :: rest => if (skipNumber rest).length < rest.length then skipNumber rest else '.' :: rest
  | cs => cs

/-- Does the text begin with a conversion of a named field? -/
def beginsWithField : List Char → Bool
  | '%' :: '(' :: rest =>
    let name := rest.takeWhile Text.isWordChar
    match rest.drop name.length with
    | ')' :: rest =>
      let rest := skipPrecision (skipNumber (rest.dropWhile "#0+ -".toList.contains))
      match rest with
      | letter :: _ => !name.isEmpty && isConversionLetter letter
      | [] => false
    | _ => false
  | _ => false

/-- Does the text hold a conversion of a named field? -/
def hasField : List Char → Bool
  | [] => false
  | c :: rest => beginsWithField (c :: rest) || hasField rest

/-- A text that can be used as a format. -/
structure Format where
  text : String
  hasField : hasField text.toList = true

namespace Format

/-- The format that shows the message only. -/
def messageOnly : Format := ⟨"%(message)s", by decide⟩

/-- The format of the program's own log files, without the time. -/
def logFile : Format := ⟨"[%(levelname)s] %(name)s: %(message)s", by decide⟩

/-- A text as a format; an empty one shows the message. -/
def ofText? (text : String) : Except FormatError Format :=
  if text.isEmpty then .ok messageOnly
  else if h : Log.hasField text.toList = true then .ok ⟨text, h⟩
  else .error (.noField text)

end Format

/-! ## Reading conversions -/

/-- Where the next conversion has its value from. -/
inductive Supply where
  /-- The field that was named last; if there was none yet, the record as a whole. -/
  | field (value : FieldValue)
  /-- Nothing is left: the value was taken by an earlier conversion. -/
  | spent

/-- The value of the next conversion. -/
def Supply.take : Supply → Except FormatError FieldValue
  | field value => .ok value
  | spent => .error .noValueLeft

/-- The name up to the parenthesis that closes it, and the rest. Parentheses inside a name come in
    pairs, `depth` of them being open. -/
def readName (depth : Nat) : List Char → Option (List Char × List Char)
  | [] => none
  | c :: rest =>
    if c == ')' && depth == 0 then some ([], rest)
    else
      let depth := if c == '(' then depth + 1 else if c == ')' then depth - 1 else depth
      (readName depth rest).map fun (name, rest) => (c :: name, rest)

/-- Flags in any order. -/
def readFlags (c : Conversion) : List Char → Conversion × List Char
  | '-' :: rest => readFlags { c with left := true } rest
  | '+' :: rest => readFlags { c with plus := true } rest
  | ' ' :: rest => readFlags { c with space := true } rest
  | '#' :: rest => readFlags { c with full := true } rest
  | '0' :: rest => readFlags { c with zero := true } rest
  | cs => (c, cs)

/-- A number of decimal digits; none is zero. -/
def readNumber (cs : List Char) : Nat × List Char :=
  let digits := cs.takeWhile Char.isDigit
  (digits.foldl (fun n c => n * 10 + (c.toNat - 48)) 0, cs.drop digits.length)

/-- A number, or a star that takes it from the values. -/
def readAmount (supply : Supply) : List Char → Except FormatError (Int × Supply × List Char)
  | '*' :: rest => do
    match ← supply.take with
    | .number n => return (n, .spent, rest)
    | .passing .whole => return (0, .spent, rest)
    | _ => throw .widthNotWhole
  | cs =>
    let (n, rest) := readNumber cs
    .ok (n, supply, rest)

/-- The largest width and the largest precision. -/
def maxWidth : Nat := 0x7FFFFFFFFFFFFFFF

@[inherit_doc maxWidth]
def maxPrecision : Nat := 0x7FFFFFFF

/-- A width; a negative one asks for the left side. -/
def readWidth (c : Conversion) (supply : Supply) (cs : List Char) :
    Except FormatError (Conversion × Supply × List Char) := do
  let (n, supply, rest) ← readAmount supply cs
  if maxWidth < n.natAbs then throw .widthTooLarge
  return ({ c with left := c.left || n < 0, width := n.natAbs }, supply, rest)

/-- A point and a precision, if there is one. -/
def readPrecision (c : Conversion) (supply : Supply) (cs : List Char) :
    Except FormatError (Conversion × Supply × List Char) := do
  match cs with
  | '.' :: rest =>
    let (n, supply, rest) ← readAmount supply rest
    if maxPrecision < n.toNat then throw .precisionTooLarge
    return ({ c with precision := some n.toNat }, supply, rest)
  | _ => return (c, supply, cs)

/-- One of the letters for a size, which means nothing. -/
def skipSize : List Char → List Char
  | 'h' :: rest => rest
  | 'l' :: rest => rest
  | 'L' :: rest => rest
  | cs => cs

/-- The name of a field, if there is one, and the value that it supplies. -/
def readField (f : Fields) (supply : Supply) : List Char → Except FormatError (Supply × List Char)
  | '(' :: rest =>
    match readName 0 rest with
    | none => .error .unclosedName
    | some (name, rest) =>
      match f.value? (String.ofList name) with
      | none => .error (.unknownField (String.ofList name))
      | some value => .ok (.field value, rest)
  | cs => .ok (supply, cs)

/-- A conversion after its percent sign: what it writes, and the rest. `size` is the length of the
    whole format. -/
def convert (f : Fields) (size : Nat) (supply : Supply) (cs : List Char) :
    Except FormatError (List Char × List Char) := do
  let (supply, cs) ← readField f supply cs
  let (c, cs) := readFlags {} cs
  let (c, supply, cs) ← readWidth c supply cs
  let (c, supply, cs) ← readPrecision c supply cs
  match skipSize cs with
  | [] => throw .unfinished
  | letter :: rest =>
    let written ← c.write letter (size - rest.length - 1) (← supply.take)
    return (written, rest)

/-- The line of a format's text. The fuel bounds the number of its pieces. -/
def fillIn (f : Fields) (size : Nat) : Nat → Supply → List Char → Except FormatError (List Char)
  | 0, _, _ => .ok []
  | _, _, [] => .ok []
  | fuel + 1, supply, '%' :: '%' :: rest => ('%' :: ·) <$> fillIn f size fuel supply rest
  | fuel + 1, supply, '%' :: rest => do
    let (written, rest) ← convert f size supply rest
    return written ++ (← fillIn f size fuel .spent rest)
  | fuel + 1, supply, c :: rest => (c :: ·) <$> fillIn f size fuel supply rest

/-- The line of a record. -/
def Format.render (format : Format) (f : Fields) : Except FormatError String :=
  let cs := format.text.toList
  String.ofList <$> fillIn f cs.length cs.length (.field f.whole) cs

end Chip8.Log
