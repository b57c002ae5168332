/-!
Hexadecimal text, the number format of every address, word and byte that the machine shows.
Digits are upper case unless said otherwise; a minus sign takes up one place of the width.
-/

namespace Chip8.Text

/-- Upper-case hexadecimal digits of `n`, most significant first, with no leading zeros. -/
def hexDigits (n : Nat) : List Char := (Nat.toDigits 16 n).map Char.toUpper

/-- `text` brought to `width` characters by spaces on the right. -/
def padRight (width : Nat) (text : String) : String :=
  String.ofList (text.toList.rightpad width ' ')

/-- `text` brought to `width` characters by spaces on the left. -/
def padLeft (width : Nat) (text : String) : String :=
  String.ofList (text.toList.leftpad width ' ')

/-- `n` in upper-case hexadecimal, zero-filled to `width` places; the sign of a negative number
    stands in front of the zeros and counts as one place, so `-1` in four places is `-001`. -/
def hexChars (width : Nat) (n : Int) : List Char :=
  if 0 ≤ n then (hexDigits n.toNat).leftpad width '0'
  else '-' :: (hexDigits n.natAbs).leftpad (width - 1) '0'

/-- The string of `hexChars`. -/
def hex (width : Nat) (n : Int) : String := String.ofList (hexChars width n)

/-- `n` in lower-case hexadecimal after `0x`, the sign in front. -/
def hexLiteral (n : Int) : String :=
  (if n < 0 then "-" else "") ++ "0x" ++ String.ofList (Nat.toDigits 16 n.natAbs)

/-- The bytes as lower-case hexadecimal pairs. -/
def hexBytes (bytes : List UInt8) : String :=
  String.ofList (bytes.flatMap fun b => (Nat.toDigits 16 b.toNat).leftpad 2 '0')

/-! ## Reading -/

/-- The value of a hexadecimal digit. -/
def hexValue? (c : Char) : Option Nat :=
  if c.isDigit then some (c.toNat - 48)
  else if 'a' ≤ c ∧ c ≤ 'f' then some (c.toNat - 87)
  else if 'A' ≤ c ∧ c ≤ 'F' then some (c.toNat - 55)
  else none

/-- May the character stand between pairs of digits? -/
def isHexBlank (c : Char) : Bool := c == ' ' || (9 ≤ c.toNat && c.toNat ≤ 13)

/-- The bytes that pairs of digits stand for. If they stand for none, the answer is how many
    characters were left at the one that is wrong. -/
def readHexPairs : List Char → Except Nat (List UInt8)
  | [] => .ok []
  | [c] => if isHexBlank c then .ok [] else .error (if (hexValue? c).isSome then 0 else 1)
  | hi :: lo :: rest =>
    if isHexBlank hi then readHexPairs (lo :: rest)
    else
      match hexValue? hi, hexValue? lo with
      | some h, some l => (UInt8.ofNat (16 * h + l) :: ·) <$> readHexPairs rest
      | some _, none => .error (rest.length + 1)
      | none, _ => .error (rest.length + 2)

/-- The bytes that a text stands for, or the place of the first character that is wrong. What is not
    ASCII is found first. -/
def readHex (text : String) : Except Nat (List UInt8) :=
  let cs := text.toList
  match cs.findIdx? fun c => 128 ≤ c.toNat with
  | some place => .error place
  | none => (readHexPairs cs).mapError (cs.length - ·)

end Chip8.Text
