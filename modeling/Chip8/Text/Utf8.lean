/-!
Reading UTF-8. A malformed sequence is reported with its place, so that the message can name it.
-/

namespace Chip8.Text

/-- Why bytes are not UTF-8. -/
inductive Utf8Error where
  /-- The byte at `position` starts no character. -/
  | badStart (byte : UInt8) (position : Nat)
  /-- The character that starts at `position` is not continued properly; `length` bytes of it are
      in order. -/
  | badContinuation (byte : UInt8) (position length : Nat)
  /-- The text ends within the character that starts at `position`, `length` bytes long so far. -/
  | truncated (byte : UInt8) (position length : Nat)
  deriving DecidableEq, Repr

/-- The sentence about a malformed sequence. -/
def Utf8Error.message (e : Utf8Error) : String :=
  let place (byte : UInt8) (position length : Nat) : String :=
    if length ≤ 1 then
      "byte 0x" ++ String.ofList ((Nat.toDigits 16 byte.toNat).leftpad 2 '0') ++
        s!" in position {position}"
    else s!"bytes in position {position}-{position + length - 1}"
  let start := "'utf-8' codec can't decode "
  match e with
  | .badStart byte position => start ++ place byte position 1 ++ ": invalid start byte"
  | .badContinuation byte position length =>
    start ++ place byte position length ++ ": invalid continuation byte"
  | .truncated byte position length =>
    start ++ place byte position length ++ ": unexpected end of data"

/-- How many continuation bytes follow a start byte and the bounds of the first of them; the bounds
    exclude overlong forms, surrogates and code points past the last plane. -/
def continuation? (b : UInt8) : Option (Nat × Nat × Nat) :=
  let n := b.toNat
  if 0xC2 ≤ n ∧ n ≤ 0xDF then some (1, 0x80, 0xBF)
  else if n = 0xE0 then some (2, 0xA0, 0xBF)
  else if n = 0xED then some (2, 0x80, 0x9F)
  else if 0xE1 ≤ n ∧ n ≤ 0xEF then some (2, 0x80, 0xBF)
  else if n = 0xF0 then some (3, 0x90, 0xBF)
  else if 0xF1 ≤ n ∧ n ≤ 0xF3 then some (3, 0x80, 0xBF)
  else if n = 0xF4 then some (3, 0x80, 0x8F)
  else none

/-- The continuation bytes of one character: `count` of them, the first within `lo` and `hi`.
    Gives the code point and the rest, or how many bytes were in order. -/
def continueChar : Nat → Nat → Nat → Nat → Nat → List UInt8 → Except (Bool × Nat) (Nat × List UInt8)
  | 0, _, _, code, _, rest => .ok (code, rest)
  | _ + 1, _, _, _, seen, [] => .error (true, seen)
  | count + 1, lo, hi, code, seen, b :: rest =>
    if lo ≤ b.toNat ∧ b.toNat ≤ hi then
      continueChar count 0x80 0xBF (code * 64 + b.toNat % 64) (seen + 1) rest
    else .error (false, seen)

/-- Decode with an explicit bound on the number of characters, which the length of the text is. -/
def decodeChars : Nat → Nat → List UInt8 → Except Utf8Error (List Char)
  | 0, _, _ => .ok []
  | _, _, [] => .ok []
  | fuel + 1, position, b :: rest =>
    if b.toNat < 0x80 then (Char.ofNat b.toNat :: ·) <$> decodeChars fuel (position + 1) rest
    else
      match continuation? b with
      | none => .error (.badStart b position)
      | some (count, lo, hi) =>
        let lead := b.toNat % 1 <<< (6 - count)
        match continueChar count lo hi lead 1 rest with
        | .ok (code, rest) =>
          (Char.ofNat code :: ·) <$> decodeChars fuel (position + count + 1) rest
        | .error (true, seen) => .error (.truncated b position seen)
        | .error (false, seen) => .error (.badContinuation b position seen)

/-- The characters that the bytes encode, or the first malformed sequence. -/
def decodeUtf8 (bytes : List UInt8) : Except Utf8Error (List Char) :=
  decodeChars bytes.length 0 bytes

end Chip8.Text
