import Chip8.Decimal.Binary
import Chip8.Text.Digit
/-!
Doubles read from text that a user typed: blanks around the number do not count, digits may be of
any script and may have single underscores between them, and the names of infinities and of the
undefined number are known in any case.
-/

namespace Chip8.Decimal

/-- Blanks become spaces and digits of any script the usual ones; the text ends where its blanks
    do. -/
def tidy (cs : List Char) : List Char :=
  let plain := cs.map fun c =>
    if Text.isBlank c then ' '
    else match Text.digitValue? c with
      | some d => Char.ofNat (48 + d)
      | none => c
  ((plain.dropWhile (· == ' ')).reverse.dropWhile (· == ' ')).reverse

/-- Digits with single underscores between them, and what follows. -/
def digits : List Char → List Nat × List Char
  | c :: '_' :: d :: rest =>
    if c.isDigit then
      if d.isDigit then
        let (more, rest) := digits (d :: rest)
        ((c.toNat - 48) :: more, rest)
      else ([c.toNat - 48], '_' :: d :: rest)
    else ([], c :: '_' :: d :: rest)
  | c :: rest =>
    if c.isDigit then
      let (more, rest) := digits rest
      ((c.toNat - 48) :: more, rest)
    else ([], c :: rest)
  | [] => ([], [])

/-- What a text says: a number or an infinity, or with a sign that it is no number. -/
inductive Numeral where
  | number (x : Float)
  | undefined (negative : Bool)

/-- The double that is meant. -/
def Numeral.toFloat : Numeral → Float
  | number x => x
  | undefined _ => 0.0 / 0.0

/-- The bits of the double, with the sign of what is no number. -/
def Numeral.bits : Numeral → UInt64
  | number x => x.toBits
  | undefined negative => if negative then 0xFFF8000000000000 else 0x7FF8000000000000

/-- A sign, if there is one: is it a minus, and what follows. -/
def sign : List Char → Bool × List Char
  | '-' :: rest => (true, rest)
  | '+' :: rest => (false, rest)
  | cs => (false, cs)

/-- The number that digits stand for. -/
def valueOf (ds : List Nat) : Nat := ds.foldl (fun n d => n * 10 + d) 0

/-- An exponent that takes up all of the text; none at all is zero. -/
def exponentOf? : List Char → Option Int
  | [] => some 0
  | mark :: rest =>
    if mark == 'e' || mark == 'E' then
      let (negative, body) := sign rest
      match digits body with
      | ([], _) => none
      | (ds, []) => some (if negative then -(valueOf ds : Int) else valueOf ds)
      | _ => none
    else none

/-- The fraction and the exponent after the whole part. A point may stand alone on one side. -/
def afterWhole? (negative : Bool) (whole : List Nat) (cs : List Char) : Option Float :=
  let (places, rest) := match cs with
    | '.' :: rest => digits rest
    | _ => ([], cs)
  if whole.isEmpty && places.isEmpty then none
  else (exponentOf? rest).map fun e =>
    toFloat negative (valueOf (whole ++ places)) (e - places.length)

/-- An infinity or the undefined number. -/
def named? (negative : Bool) (cs : List Char) : Option Numeral :=
  let name := String.ofList (cs.map Char.toLower)
  if name == "inf" || name == "infinity" then
    some (.number (if negative then -1.0 / 0.0 else 1.0 / 0.0))
  else if name == "nan" then some (.undefined negative)
  else none

/-- What a text says, if it is written as a number. -/
def numeral? (text : String) : Option Numeral :=
  let (negative, body) := sign (tidy text.toList)
  match named? negative body with
  | some x => some x
  | none =>
    let (whole, rest) := digits body
    (afterWhole? negative whole rest).map .number

/-- The double that a text stands for, if it is a number. -/
def read? (text : String) : Option Float := (numeral? text).map Numeral.toFloat

end Chip8.Decimal
