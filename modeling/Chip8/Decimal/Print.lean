import Chip8.Decimal.Binary
/-!
Decimal text of a double. Three forms are used: the fewest digits that read back (`shortest`), a
fixed number of places (`fixed`) and six significant digits (`general`). All three are computed from
the exact binary value.
-/

namespace Chip8.Decimal

/-- Significant digits and the exponent of the first one: `d₁.d₂d₃… · 10 ^ exponent`. -/
structure Digits where
  digits : List Char
  exponent : Int
  deriving DecidableEq, Repr

/-- Where positional writing ends and how it is written. -/
structure Layout where
  /-- Numbers whose leading exponent is below this are written with an exponent. -/
  least : Int
  /-- Numbers whose leading exponent reaches this are written with an exponent, too. -/
  bound : Int
  /-- A positional whole number keeps `.0`. -/
  keepPoint : Bool

/-- A plain number: positional from `0.0001` to below `10 ^ 16`, always with a point. -/
def plain : Layout := ⟨-4, 16, true⟩

/-- A short number of six digits: positional below a million, with a point only if needed. -/
def brief : Layout := ⟨-4, 6, false⟩

/-- Drop zeros at the end, but keep one digit. -/
def trimZeros (ds : List Char) : List Char :=
  match (ds.reverse.dropWhile (· == '0')).reverse with
  | [] => ['0']
  | kept => kept

/-- An exponent mark: sign and at least two digits. -/
def exponentText (e : Int) : List Char :=
  'e' :: (if e < 0 then '-' else '+') :: (Nat.toDigits 10 e.natAbs).leftpad 2 '0'

/-- Lay digits out, positionally or with an exponent. -/
def Digits.chars (layout : Layout) (n : Digits) : List Char :=
  if layout.least ≤ n.exponent ∧ n.exponent < layout.bound then
    if n.exponent < 0 then
      '0' :: '.' :: (List.replicate (n.exponent.natAbs - 1) '0' ++ n.digits)
    else
      let before := n.exponent.toNat + 1
      let whole := n.digits.take before
      let rest := n.digits.drop before
      whole ++ List.replicate (before - whole.length) '0' ++
        (match rest with
        | [] => if layout.keepPoint then ['.', '0'] else []
        | _ => '.' :: rest)
  else
    match n.digits with
    | [] => []
    | d :: [] => d :: exponentText n.exponent
    | d :: ds => d :: '.' :: ds ++ exponentText n.exponent

/-- `num / den` to `count` significant digits, half to even, trailing zeros dropped. -/
def roundTo (count : Nat) (num den : Nat) : Digits :=
  let lead := leadingExponent num den
  let shift : Int := lead - count + 1
  let d := roundDiv (num * tenTo (-shift).toNat) (den * tenTo shift.toNat)
  let ds := Nat.toDigits 10 d
  ⟨trimZeros ds, lead + ((ds.length : Int) - count)⟩

/-- Does `d · 10 ^ k` read back as the double `b`? It does if it lies between the midpoints to the
    neighbouring doubles; the midpoints themselves count iff the mantissa is even. The lower
    neighbour of a power of two is half as far away. -/
def readsBack (b : Binary) (d : Nat) (k : Int) : Bool :=
  let point := (d * tenTo k.toNat) <<< (2 - b.exponent).toNat
  let unit := tenTo (-k).toNat <<< (b.exponent - 2).toNat
  let below := if b.mantissa = 0x10000000000000 ∧ -1074 < b.exponent then 1 else 2
  let low := (4 * b.mantissa - below) * unit
  let high := (4 * b.mantissa + 2) * unit
  if b.mantissa % 2 = 0 then low ≤ point && point ≤ high else low < point && point < high

/-- The `count`-digit decimal next to `b` that reads back, if there is one: the nearer of the two
    neighbours on that grid, of two equally near ones the even one. -/
def onGrid (b : Binary) (count : Nat) : Option Digits :=
  let num := b.numerator
  let den := b.denominator
  let lead := leadingExponent num den
  let shift : Int := lead - count + 1
  let n := num * tenTo (-shift).toNat
  let d := den * tenTo shift.toNat
  let near := roundDiv n d
  let other := if near = n / d then near + 1 else n / d
  let pick (v : Nat) : Digits :=
    let ds := Nat.toDigits 10 v
    ⟨trimZeros ds, lead + ((ds.length : Int) - count)⟩
  if readsBack b near shift then some (pick near)
  else if readsBack b other shift then some (pick other)
  else none

/-- The digits of a positive double: the coarsest grid of one to seventeen digits with a hit. -/
def shortestDigits (b : Binary) : Digits :=
  ((List.range 17).findSome? fun i => onGrid b (i + 1)).getD (roundTo 17 b.numerator b.denominator)

/-- Sign and body of a reading; `body` is asked for finite numbers other than zero only. -/
def compose (x : Float) (zero : List Char) (body : Binary → List Char) : String :=
  let signed (negative : Bool) (cs : List Char) : String :=
    String.ofList (if negative then '-' :: cs else cs)
  match classify x with
  | .notANumber => "nan"
  | .infinite negative => signed negative ['i', 'n', 'f']
  | .finite b => signed b.negative (if b.mantissa = 0 then zero else body b)

/-- The fewest digits that read back as `x`: `0.1`, `3.0`, `1e+16`, `1e-05`. -/
def shortest (x : Float) : String :=
  compose x ['0', '.', '0'] fun b => (shortestDigits b).chars plain

/-- Six significant digits: `60`, `0.5`, `1e+06`. -/
def general (x : Float) : String :=
  compose x ['0'] fun b => (roundTo 6 b.numerator b.denominator).chars brief

/-- `n / 10 ^ places` written with exactly that many places. -/
def placesText (places n : Nat) : List Char :=
  let ds := (Nat.toDigits 10 n).leftpad (places + 1) '0'
  let whole := ds.take (ds.length - places)
  match ds.drop (ds.length - places) with
  | [] => whole
  | rest => whole ++ '.' :: rest

/-- `x` with a fixed number of places, the exact binary value rounded half to even. -/
def fixed (places : Nat) (x : Float) : String :=
  compose x (placesText places 0) fun b =>
    placesText places (roundDiv (b.numerator * tenTo places) b.denominator)

end Chip8.Decimal
