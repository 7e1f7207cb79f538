/-! # Shortest decimals

The decimal with the fewest digits that reads back as a given floating-point number. A positive
finite number is `m * 2 ^ q` with integers `m` and `q`; the reals that round to it form an interval
around it, and of the decimals with `k` digits the two neighbours of the number are tried, for `k`
from one on. All arithmetic is exact.
-/

namespace Interlock.Number

/-- A positive decimal: its digits as an integer, times a power of ten. -/
structure Decimal where
  digits : Nat
  exponent : Int
deriving DecidableEq, Repr

/-- A positive finite binary number `m * 2 ^ q`. The flag says that the number below it is only half
as far away as the one above. -/
structure Binary where
  m : Nat
  q : Int
  closerBelow : Bool := false
deriving DecidableEq, Repr

/-- The value `n * 2 ^ two * 10 ^ ten` as a fraction of two natural numbers. -/
def scaled (n : Nat) (two ten : Int) : Nat × Nat :=
  (n * Nat.pow 2 two.toNat * Nat.pow 10 ten.toNat,
    Nat.pow 2 (-two).toNat * Nat.pow 10 (-ten).toNat)

/-- The order of two fractions. -/
def compareFractions (a b : Nat × Nat) : Ordering :=
  compare (a.1 * b.2) (b.1 * a.2)

namespace Binary

/-- Whether a decimal reads back as the number: it lies between the midpoints to the neighbouring
numbers. The midpoints themselves round to the number with the even `m`. -/
def readsBack (b : Binary) (d : Decimal) : Bool :=
  let value := scaled d.digits 0 d.exponent
  let below :=
    if b.closerBelow then scaled (4 * b.m - 1) (b.q - 2) 0 else scaled (2 * b.m - 1) (b.q - 1) 0
  let above := scaled (2 * b.m + 1) (b.q - 1) 0
  let even := b.m % 2 == 0
  let aboveLow := match compareFractions below value with
    | .lt => true
    | .eq => even
    | .gt => false
  let belowHigh := match compareFractions value above with
    | .lt => true
    | .eq => even
    | .gt => false
  aboveLow && belowHigh

/-- Whether the lower of two decimals is taken: it is nearer to the number than the upper one, or as
near and its last digit is even. -/
def nearerLower (b : Binary) (lower upper : Decimal) : Bool :=
  let doubled := scaled (2 * b.m) b.q 0
  let sum := scaled (lower.digits + upper.digits) 0 lower.exponent
  match compareFractions doubled sum with
  | .lt => true
  | .eq => lower.digits % 2 == 0
  | .gt => false

/-- The decimal multiples of `10 ^ exponent` just below the number, or on it. -/
def floorAt (b : Binary) (exponent : Int) : Nat :=
  let (n, d) := scaled b.m b.q (-exponent)
  n / d

/-- The decimal neighbour on the grid of `10 ^ exponent` that reads back, the nearer of two. -/
def onGrid? (b : Binary) (exponent : Int) : Option Decimal :=
  let lower : Decimal := ⟨b.floorAt exponent, exponent⟩
  let upper : Decimal := ⟨b.floorAt exponent + 1, exponent⟩
  match 0 < lower.digits && b.readsBack lower, b.readsBack upper with
  | true, true => some (if b.nearerLower lower upper then lower else upper)
  | true, false => some lower
  | false, true => some upper
  | false, false => none

/-- Tries grids from coarse to fine. -/
def shortestFrom (b : Binary) (exponent : Int) : Nat → Decimal
  | 0 => ⟨b.floorAt exponent, exponent⟩
  | fuel + 1 =>
    match b.onGrid? exponent with
    | some d => d
    | none => shortestFrom b (exponent - 1) fuel

/-- An exponent whose power of ten is above the number. -/
def highExponent (b : Binary) : Int :=
  let bits : Int := (Nat.log2 b.m + 1 : Nat)
  (bits + b.q) * 30103 / 100000 + 2

/-- The shortest decimal that reads back as the number. Twenty grids below the first digit are more
than any 64-bit number needs. -/
def shortest (b : Binary) : Decimal :=
  shortestFrom b b.highExponent 24

end Binary

/-- Drops the trailing zeros of the digits. -/
def Decimal.trimmed : Nat → Decimal → Decimal
  | 0, d => d
  | fuel + 1, d =>
    if d.digits % 10 = 0 ∧ d.digits ≠ 0 then
      Decimal.trimmed fuel ⟨d.digits / 10, d.exponent + 1⟩
    else d

/-- The sorts of floating-point numbers. -/
inductive FloatShape where
  | nan
  | infinite (negative : Bool)
  | zero (negative : Bool)
  | finite (negative : Bool) (magnitude : Binary)
deriving DecidableEq, Repr

/-- Takes the bits of a floating-point number apart. -/
def shapeOfBits (bits : UInt64) : FloatShape :=
  let negative := bits.toNat / Nat.pow 2 63 == 1
  let biased : Nat := bits.toNat / Nat.pow 2 52 % Nat.pow 2 11
  let fraction : Nat := bits.toNat % Nat.pow 2 52
  if biased = 2047 then
    if fraction = 0 then .infinite negative else .nan
  else if biased = 0 then
    if fraction = 0 then .zero negative else .finite negative ⟨fraction, -1074, false⟩
  else
    .finite negative ⟨Nat.pow 2 52 + fraction, (biased : Int) - 1075, fraction = 0 ∧ 1 < biased⟩

/-- How a floating-point number is written: which decimal exponents are written out without a power
of ten, and the words for the numbers that are none. -/
structure FloatFormat where
  lowestPlain : Int
  highestPlain : Int
  exponentDigits : Nat
  nan : String
  positiveInfinity : String
  negativeInfinity : String

/-- Digits with a power of ten after them, as in `1.5e+06`. -/
def scientificText (format : FloatFormat) (digits : List Char) (exponent : Int) : String :=
  let head := digits.take 1
  let tail := digits.drop 1
  let mantissa := if tail.isEmpty then head else head ++ '.' :: tail
  let magnitude := Nat.toDigits 10 exponent.natAbs
  let filled := List.replicate (format.exponentDigits - magnitude.length) '0' ++ magnitude
  String.ofList (mantissa ++ 'e' :: (if exponent < 0 then '-' else '+') :: filled)

/-- Digits with the decimal point where it belongs. The value is `0.digits * 10 ^ point`. -/
def positionalText (digits : List Char) (point : Int) : String :=
  if point ≤ 0 then
    String.ofList ('0' :: '.' :: List.replicate (-point).toNat '0' ++ digits)
  else if (digits.length : Int) ≤ point then
    String.ofList (digits ++ List.replicate (point.toNat - digits.length) '0')
  else
    String.ofList (digits.take point.toNat ++ '.' :: digits.drop point.toNat)

/-- Writes the shape of a floating-point number. -/
def FloatFormat.write (format : FloatFormat) : FloatShape → String
  | .nan => format.nan
  | .infinite negative => if negative then format.negativeInfinity else format.positiveInfinity
  | .zero negative => if negative then "-0" else "0"
  | .finite negative magnitude =>
    let d := Decimal.trimmed 24 magnitude.shortest
    let digits := Nat.toDigits 10 d.digits
    let point : Int := digits.length + d.exponent
    let body :=
      if format.lowestPlain ≤ point - 1 ∧ point - 1 ≤ format.highestPlain then
        positionalText digits point
      else scientificText format digits (point - 1)
    if negative then "-" ++ body else body

/-- Numbers in reports: powers of ten from a million on and below a ten-thousandth. -/
def reportFormat : FloatFormat where
  lowestPlain := -4
  highestPlain := 5
  exponentDigits := 2
  nan := "NaN"
  positiveInfinity := "+Inf"
  negativeInfinity := "-Inf"

/-- A floating-point number as reports show it. -/
def floatText (x : Float) : String :=
  reportFormat.write (shapeOfBits x.toBits)

end Interlock.Number
