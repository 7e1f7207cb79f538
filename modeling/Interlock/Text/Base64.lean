/-! # Base 64

Octets written with 64 letters, four for each three octets, filled up with equality signs.
-/

namespace Interlock.Text

/-- The value of a letter of base 64. -/
def base64Value? (c : Char) : Option Nat :=
  if 'A' ≤ c ∧ c ≤ 'Z' then some (c.toNat - 0x41)
  else if 'a' ≤ c ∧ c ≤ 'z' then some (c.toNat - 0x61 + 26)
  else if '0' ≤ c ∧ c ≤ '9' then some (c.toNat - 0x30 + 52)
  else if c = '+' then some 62
  else if c = '/' then some 63
  else none

/-- The octets of groups of four letters. Only the last group may be filled up. -/
def base64Octets? : List Char → Option (List UInt8)
  | [] => some []
  | [a, b, '=', '='] => do
    let x := (← base64Value? a) * 64 + (← base64Value? b)
    return [UInt8.ofNat (x / 16)]
  | [a, b, c, '='] => do
    let x := ((← base64Value? a) * 64 + (← base64Value? b)) * 64 + (← base64Value? c)
    return [UInt8.ofNat (x / 1024), UInt8.ofNat (x / 4)]
  | a :: b :: c :: d :: rest => do
    let x := (((← base64Value? a) * 64 + (← base64Value? b)) * 64 + (← base64Value? c)) * 64 +
      (← base64Value? d)
    let more ← base64Octets? rest
    return UInt8.ofNat (x / 65536) :: UInt8.ofNat (x / 256) :: UInt8.ofNat x :: more
  | _ => none

/-- The octets of a text in base 64, whose line ends are skipped. -/
def readBase64? (text : List Char) : Option (List UInt8) :=
  base64Octets? (text.filter fun c => c ≠ '\n' ∧ c ≠ '\r')

/-- The letter of base 64 for a value below 64. -/
def base64Letter (n : Nat) : Char :=
  if n < 26 then Char.ofNat (0x41 + n)
  else if n < 52 then Char.ofNat (0x61 + (n - 26))
  else if n < 62 then Char.ofNat (0x30 + (n - 52))
  else if n = 62 then '+'
  else '/'

/-- Octets in base 64. -/
def base64 : List UInt8 → List Char
  | [] => []
  | [a] =>
    let x := a.toNat * 16
    [base64Letter (x / 64), base64Letter (x % 64), '=', '=']
  | [a, b] =>
    let x := (a.toNat * 256 + b.toNat) * 4
    [base64Letter (x / 4096), base64Letter (x / 64 % 64), base64Letter (x % 64), '=']
  | a :: b :: c :: rest =>
    let x := (a.toNat * 256 + b.toNat) * 256 + c.toNat
    base64Letter (x / 262144) :: base64Letter (x / 4096 % 64) :: base64Letter (x / 64 % 64) ::
      base64Letter (x % 64) :: base64 rest

/-- A text in lines of at most `width` characters, each with a line feed behind it. -/
def inLines (width : Nat) : (fuel : Nat) → List Char → List Char
  | 0, _ | _, [] => []
  | fuel + 1, text => text.take width ++ '\n' :: inLines width fuel (text.drop width)

end Interlock.Text
