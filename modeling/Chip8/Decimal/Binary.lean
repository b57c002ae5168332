/-!
A double taken apart into whole numbers, so that everything that is printed or counted from it is
computed exactly: a finite double is `± mantissa · 2 ^ exponent`.
-/

namespace Chip8.Decimal

/-- The magnitude `mantissa · 2 ^ exponent` of a finite double and its sign. -/
structure Binary where
  negative : Bool
  mantissa : Nat
  exponent : Int
  deriving DecidableEq, Repr

/-- What the bits of a double say. -/
inductive Reading where
  | finite (value : Binary)
  | infinite (negative : Bool)
  | notANumber
  deriving DecidableEq, Repr

/-- Read the sign, the 11 exponent bits and the 52 fraction bits of a double. -/
def classify (x : Float) : Reading :=
  let bits := x.toBits.toNat
  let negative := decide (0x8000000000000000 ≤ bits)
  let scale : Nat := bits / 0x10000000000000 % 2048
  let fraction : Nat := bits % 0x10000000000000
  if scale = 2047 then
    if fraction = 0 then .infinite negative else .notANumber
  else if scale = 0 then .finite ⟨negative, fraction, -1074⟩
  else .finite ⟨negative, fraction + 0x10000000000000, (scale : Int) - 1075⟩

namespace Binary

/-- Numerator of the magnitude; the denominator is `denominator`. -/
def numerator (b : Binary) : Nat := b.mantissa <<< b.exponent.toNat

/-- Denominator of the magnitude, a power of two. -/
def denominator (b : Binary) : Nat := 1 <<< (-b.exponent).toNat

/-- The whole part, rounded toward zero. -/
def truncate (b : Binary) : Int :=
  let whole : Int := (b.numerator / b.denominator : Nat)
  if b.negative then -whole else whole

end Binary

/-- The power of ten with an exponent. -/
def tenTo (exponent : Nat) : Nat := Nat.pow 10 exponent

/-- `num / den` to the nearest whole number, a half to the even neighbour. -/
def roundDiv (num den : Nat) : Nat :=
  let q := num / den
  let r := num % den
  if 2 * r < den then q
  else if den < 2 * r then q + 1
  else if q % 2 = 0 then q else q + 1

/-- How many decimal digits `n` has; none for zero. -/
def digitCount (n : Nat) : Nat := if n = 0 then 0 else (Nat.toDigits 10 n).length

/-- The exponent of the leading decimal digit of `num / den` (both positive): the largest `e` with
    `10 ^ e ≤ num / den`. -/
def leadingExponent (num den : Nat) : Int :=
  if den ≤ num then (digitCount (num / den) : Int) - 1
  else -(digitCount ((den + num - 1) / num - 1) : Int)

/-- The double nearest to `± mantissa · 10 ^ exponent`. Magnitudes beyond any double are decided
    from the place of the leading digit, without the power of ten. -/
def toFloat (negative : Bool) (mantissa : Nat) (exponent : Int) : Float :=
  let magnitude : Float :=
    if mantissa = 0 then 0.0
    else
      let lead := (digitCount mantissa : Int) + exponent
      if lead > 400 then 1.0 / 0.0
      else if lead < -400 then 0.0
      else if 0 ≤ exponent then Float.ofScientific (mantissa * tenTo exponent.toNat) false 0
      else Float.ofScientific mantissa true exponent.natAbs
  if negative then -magnitude else magnitude

end Chip8.Decimal
