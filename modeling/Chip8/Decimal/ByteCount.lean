import Chip8.Decimal.Print
/-!
Amounts of memory as text: a number of bytes in the largest unit of which there is at least one, to
three significant digits.
-/

namespace Chip8.Decimal

/-- The units in ascending order, each 1024 times the one before. -/
def byteUnits : List String := ["bytes", "KiB", "MiB", "GiB", "TiB", "PiB", "EiB"]

/-- How many bytes the unit at a place has. -/
def unitSize (place : Nat) : Nat := 1 <<< (10 * place)

/-- The place of the unit for `n` bytes. What would round to 1024 of a unit is one of the next. -/
def byteUnit (n : Nat) : Nat :=
  let i := n.log2 / 10
  min (if roundDiv n (unitSize i) = 1024 then i + 1 else i) (byteUnits.length - 1)

/-- `num / den`, at least one and below a thousand, to three significant digits. The point is
    written even after the last of them. -/
def threeDigits (num den : Nat) : String :=
  let n := roundTo 3 num den
  let before := n.exponent.toNat + 1
  let ds := n.digits.rightpad 3 '0'
  String.ofList (ds.take before ++ '.' :: ds.drop before)

/-- `n` bytes in their unit; bytes themselves are counted exactly. -/
def byteCount (n : Nat) : String :=
  let i := byteUnit n
  let count := roundDiv n (unitSize i)
  let text :=
    if i = 0 then toString n
    else if count < 1000 then threeDigits n (unitSize i)
    else toString count ++ "."
  text ++ " " ++ byteUnits.getD i ""

end Chip8.Decimal
