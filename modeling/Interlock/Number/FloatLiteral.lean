import Interlock.Number.Integer

/-! # Floating-point literals

Decimal literals with an optional point and an optional power of ten, rounded to the nearest
floating-point number. A literal beyond the range of floating-point numbers is refused.
-/

namespace Interlock.Number

/-- The parts of a decimal literal: sign, digits as one integer, and the power of ten to scale by.
-/
structure FloatLiteral where
  negative : Bool
  digits : Nat
  exponent : Int
deriving DecidableEq, Repr

/-- The value of decimal digits. -/
def digitsValue (digits : List Char) : Nat :=
  digits.foldl (fun n c => n * 10 + (c.toNat - 0x30)) 0

/-- The power of ten at the end of a literal, zero if there is none. -/
def exponentPart? : List Char → Option Int
  | [] => some 0
  | mark :: rest =>
    if mark = 'e' ∨ mark = 'E' then
      let (negative, digits) := splitSign rest
      if digits.isEmpty || !digits.all Char.isDigit then none
      else some (if negative then -(digitsValue digits : Int) else digitsValue digits)
    else none

/-- Takes a decimal literal apart. There must be a digit in front of the point or behind it. -/
def FloatLiteral.parse? (text : List Char) : Option FloatLiteral := do
  let (negative, body) := splitSign text
  let (whole, rest) := body.span Char.isDigit
  let (fraction, rest) := match rest with
    | '.' :: rest => rest.span Char.isDigit
    | rest => ([], rest)
  if whole.isEmpty && fraction.isEmpty then none
  else
    let exponent ← exponentPart? rest
    some ⟨negative, digitsValue (whole ++ fraction), exponent - fraction.length⟩

/-- The nearest floating-point number. Powers of ten that decide the result by themselves are not
computed. -/
def FloatLiteral.value (l : FloatLiteral) : Float :=
  let places : Int := (Nat.toDigits 10 l.digits).length
  let magnitude :=
    if l.digits = 0 ∨ l.exponent + places < -400 then 0.0
    else if 400 < l.exponent + places then 1.0 / 0.0
    else if 0 ≤ l.exponent then
      Float.ofScientific (l.digits * Nat.pow 10 l.exponent.toNat) false 0
    else Float.ofScientific l.digits true l.exponent.natAbs
  if l.negative then -magnitude else magnitude

/-- Reads a decimal literal. -/
def readFloat? (text : List Char) : Option Float := do
  let value := (← FloatLiteral.parse? text).value
  if value.isInf then none else some value

/-- Reads a decimal literal whose digits may be parted by single underscores. -/
def readSpacedFloat? (text : List Char) : Option Float :=
  if text.contains '_' && !underscoresWell text then none
  else readFloat? (text.filter (· ≠ '_'))

end Interlock.Number
