import Chip8.Text.Printable
/-!
Quoted text, as paths and arguments are named in messages: single quotes, unless the text has a
single quote and no double one; backslash escapes for the quote in use, the backslash and what
cannot be printed.
-/

namespace Chip8.Text

/-- `n` in lower-case hexadecimal with at least `width` digits. -/
def lowHex (width n : Nat) : List Char := (Nat.toDigits 16 n).leftpad width '0'

/-- The escape with a character's code point. -/
def escapeCode (c : Char) : List Char :=
  if c.toNat < 0x100 then '\\' :: 'x' :: lowHex 2 c.toNat
  else if c.toNat < 0x10000 then '\\' :: 'u' :: lowHex 4 c.toNat
  else '\\' :: 'U' :: lowHex 8 c.toNat

/-- One character inside quotes of the kind `quote`. -/
def quoteChar (quote c : Char) : List Char :=
  if c == quote || c == '\\' then ['\\', c]
  else if c == '\n' then ['\\', 'n']
  else if c == '\r' then ['\\', 'r']
  else if c == '\t' then ['\\', 't']
  else if isPrintable c then [c]
  else escapeCode c

/-- The quote that a text is put in. -/
def quoteFor (cs : List Char) : Char :=
  if cs.contains '\'' && !cs.contains '"' then '"' else '\''

/-- The text in quotes. -/
def quoted (s : String) : String :=
  let quote := quoteFor s.toList
  String.ofList (quote :: (s.toList.flatMap (quoteChar quote) ++ [quote]))

/-- The text with an escape for every character beyond ASCII. -/
def asciiOnly (s : String) : String :=
  String.ofList (s.toList.flatMap fun c => if c.toNat < 128 then [c] else escapeCode c)

end Chip8.Text
