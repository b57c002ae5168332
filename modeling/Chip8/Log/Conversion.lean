import Chip8.Decimal.Print
import Chip8.Text.Quoted
/-!
Conversions: how a value is written into a line. A letter says in which form, and a sign, a width
and a precision may be asked for. Numbers here are whole, so their places after the point are zeros.
-/

namespace Chip8.Log

/-- What kind of thing is another one in every run. -/
inductive Passing where
  | text
  | whole
  | real
  deriving DecidableEq, Repr

/-- What a format can ask of a record. -/
inductive FieldValue where
  | text (s : String)
  | number (n : Int)
  /-- Nothing is known. -/
  | absent
  /-- A list that is empty. -/
  | noItems
  /-- Something that is another one in every run; nothing is shown of it. -/
  | passing (kind : Passing)
  /-- The record as a whole, shown as a text. -/
  | record (shown : String)
  deriving DecidableEq, Repr

namespace FieldValue

/-- The name of a value's shape, as it appears in messages. -/
def typeName : FieldValue → String
  | text _ => "str"
  | number _ => "int"
  | absent => "NoneType"
  | noItems => "tuple"
  | passing .text => "str"
  | passing .whole => "int"
  | passing .real => "float"
  | record _ => "dict"

/-- The value as it is. -/
def plain : FieldValue → String
  | text s => s
  | number n => toString n
  | absent => "None"
  | noItems => "()"
  | passing _ => ""
  | record shown => shown

/-- The value with its text in quotes. -/
def quoted : FieldValue → String
  | text s => Text.quoted s
  | v => v.plain

end FieldValue

/-- Why a record could not be brought into a format. -/
inductive FormatError where
  /-- A format without any field. -/
  | noField (format : String)
  | unknownField (name : String)
  /-- The letter at a place of the format stands for no form. -/
  | unknownLetter (letter : Char) (index : Nat)
  | unclosedName
  | unfinished
  /-- A conversion names no field, and there is no value left. -/
  | noValueLeft
  | widthNotWhole
  | widthTooLarge
  | precisionTooLarge
  /-- A number is needed. -/
  | notANumber (letter : Char) (typeName : String)
  /-- A whole number is needed. -/
  | notWhole (letter : Char) (typeName : String)
  /-- A real number is needed. -/
  | notReal (typeName : String)
  | notACharacter
  | characterOutOfRange
  deriving DecidableEq, Repr

/-- The sentence about it. -/
def FormatError.message : FormatError → String
  | noField format => "Invalid format '" ++ format ++ "' for '%' style"
  | unknownField name => "Formatting field not found in record: " ++ Text.quoted name
  | unknownLetter letter index =>
    let shown := if 31 ≤ letter.toNat && letter.toNat ≤ 126 then letter else '?'
    "unsupported format character '" ++ String.singleton shown ++ "' (0x" ++
      String.ofList (Nat.toDigits 16 letter.toNat) ++ ") at index " ++ toString index
  | unclosedName => "incomplete format key"
  | unfinished => "incomplete format"
  | noValueLeft => "not enough arguments for format string"
  | widthNotWhole => "* wants int"
  | widthTooLarge => "width too big"
  | precisionTooLarge => "precision too big"
  | notANumber letter typeName =>
    "%" ++ String.singleton letter ++ " format: a real number is required, not " ++ typeName
  | notWhole letter typeName =>
    "%" ++ String.singleton letter ++ " format: an integer is required, not " ++ typeName
  | notReal typeName => "must be real number, not " ++ typeName
  | notACharacter => "%c requires int or char"
  | characterOutOfRange => "%c arg not in range(0x110000)"

/-! ## Numbers -/

/-- A number in three parts; zeros that fill it up stand before the digits. -/
structure NumberText where
  sign : List Char
  mark : List Char
  digits : List Char

/-- `n` to exactly `count` significant digits, half to even, and the exponent of the first. -/
def significant (count n : Nat) : List Char × Nat :=
  let ds := Nat.toDigits 10 n
  if ds.length ≤ count then (ds.rightpad count '0', ds.length - 1)
  else
    let rounded := Nat.toDigits 10 (Decimal.roundDiv n (Decimal.tenTo (ds.length - count)))
    -- rounding up may bring one more digit, as from 999 to 1000
    (rounded.take count, ds.length - 1 + (rounded.length - count))

/-- Digits after a first one; the point is left out if there are none, unless it is kept. -/
def pointed (keep : Bool) (whole places : List Char) : List Char :=
  if places.isEmpty && !keep then whole else whole ++ '.' :: places

/-- `n` with a fixed number of places. -/
def fixedPlaces (keep : Bool) (places n : Nat) : List Char :=
  pointed keep (Nat.toDigits 10 n) (List.replicate places '0')

/-- `n` with an exponent and a fixed number of places. -/
def withExponent (keep : Bool) (places n : Nat) : List Char :=
  let (ds, e) := significant (places + 1) n
  pointed keep (ds.take 1) (ds.drop 1) ++ Decimal.exponentText e

/-- `n` to a number of significant digits, positional if they reach its last digit. Zeros at the end
    go, unless they are kept. -/
def generalForm (keep : Bool) (count n : Nat) : List Char :=
  -- a precision of zero is taken for one
  let count := max count 1
  let (ds, e) := significant count n
  let trim (cs : List Char) : List Char :=
    if keep then cs else (cs.reverse.dropWhile (· == '0')).reverse
  if e < count then pointed keep (ds.take (e + 1)) (trim (ds.drop (e + 1)))
  else pointed keep (ds.take 1) (trim (ds.drop 1)) ++ Decimal.exponentText e

/-! ## Conversions -/

/-- What is asked for besides the form. -/
structure Conversion where
  /-- Spaces that fill up stand on the right. -/
  left : Bool := false
  /-- A sign stands before numbers that are not negative, too. -/
  plus : Bool := false
  /-- A space stands there instead. -/
  space : Bool := false
  /-- The form that shows more: marks before digits, points and zeros after them. -/
  full : Bool := false
  /-- Numbers are filled up by zeros. -/
  zero : Bool := false
  width : Nat := 0
  precision : Option Nat := none
  deriving DecidableEq, Repr

namespace Conversion

/-- Characters brought to the width by spaces. -/
def fill (c : Conversion) (cs : List Char) : List Char :=
  if c.left then cs.rightpad c.width ' ' else cs.leftpad c.width ' '

/-- A number brought to the width. -/
def fillNumber (c : Conversion) (n : NumberText) : List Char :=
  let cs := n.sign ++ n.mark ++ n.digits
  if c.zero && !c.left then
    n.sign ++ n.mark ++ List.replicate (c.width - cs.length) '0' ++ n.digits
  else c.fill cs

/-- The sign of a number. -/
def signOf (c : Conversion) (n : Int) : List Char :=
  if n < 0 then ['-'] else if c.plus then ['+'] else if c.space then [' '] else []

/-- A text, cut at the precision. -/
def writeText (c : Conversion) (s : String) : List Char :=
  c.fill (match c.precision with
    | some n => s.toList.take n
    | none => s.toList)

/-- A whole number to a base, with at least as many digits as the precision says. -/
def writeWhole (c : Conversion) (base : Nat) (letter : Char) (n : Int) : List Char :=
  let ds := (Nat.toDigits base n.natAbs).leftpad (c.precision.getD 0) '0'
  c.fillNumber {
    sign := c.signOf n
    mark := if c.full && base != 10 then ['0', letter] else []
    digits := if letter == 'X' then ds.map Char.toUpper else ds }

/-- A whole number as a real one. -/
def writeReal (c : Conversion) (letter : Char) (n : Int) : List Char :=
  let precision := c.precision.getD 6
  let ds :=
    match letter.toLower with
    | 'f' => fixedPlaces c.full precision n.natAbs
    | 'e' => withExponent c.full precision n.natAbs
    | _ => generalForm c.full precision n.natAbs
  c.fillNumber {
    sign := c.signOf n
    mark := []
    digits := if letter.isUpper then ds.map Char.toUpper else ds }

/-- The character that a value stands for. -/
def characterOf : FieldValue → Except FormatError Char
  | .number n =>
    if 0 ≤ n ∧ n < 0x110000 then .ok (Char.ofNat n.toNat) else .error .characterOutOfRange
  | .text s =>
    match s.toList with
    | [c] => .ok c
    | _ => .error .notACharacter
  | _ => .error .notACharacter

/-- A number in decimal digits. -/
def decimalOf (c : Conversion) (letter : Char) : FieldValue → Except FormatError (List Char)
  | .number n => .ok (c.writeWhole 10 letter n)
  | .passing .whole => .ok (c.fill [])
  | .passing .real => .ok (c.fill [])
  | v => .error (.notANumber letter v.typeName)

/-- A whole number in octal or hexadecimal digits. -/
def markedOf (c : Conversion) (letter : Char) : FieldValue → Except FormatError (List Char)
  | .number n => .ok (c.writeWhole (if letter == 'o' then 8 else 16) letter n)
  | .passing .whole => .ok (c.fill [])
  | v => .error (.notWhole letter v.typeName)

/-- A number with places or an exponent. -/
def realOf (c : Conversion) (letter : Char) : FieldValue → Except FormatError (List Char)
  | .number n => .ok (c.writeReal letter n)
  | .passing .whole => .ok (c.fill [])
  | .passing .real => .ok (c.fill [])
  | v => .error (.notReal v.typeName)

/-- Write a value in the form that a letter stands for; the letter is at `index` of the format. -/
def write (c : Conversion) (letter : Char) (index : Nat) (v : FieldValue) :
    Except FormatError (List Char) :=
  match letter with
  | 's' => .ok (c.writeText v.plain)
  | 'r' => .ok (c.writeText v.quoted)
  | 'a' => .ok (c.writeText (Text.asciiOnly v.quoted))
  | 'c' => (fun ch => c.fill [ch]) <$> characterOf v
  | _ =>
    if letter == 'd' || letter == 'i' || letter == 'u' then decimalOf c letter v
    else if letter == 'o' || letter == 'x' || letter == 'X' then markedOf c letter v
    else if letter.toLower == 'e' || letter.toLower == 'f' || letter.toLower == 'g' then
      realOf c letter v
    else .error (.unknownLetter letter index)

end Conversion

/-- Filling up never loses a character. -/
theorem Conversion.length_fill (c : Conversion) (cs : List Char) :
    (c.fill cs).length = max c.width cs.length := by
  unfold fill
  split <;> simp [List.rightpad, List.leftpad] <;> omega

end Chip8.Log
