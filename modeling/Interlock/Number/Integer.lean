import Interlock.Text.Quoted

/-! # Signed machine integers as text

All counts of this library are signed 64-bit words whose arithmetic wraps around. This module reads
and writes them: decimal operands, and literals with a base mark.
-/

namespace Interlock.Number

/-- Why a text is no machine integer. -/
inductive IntegerError where
  | invalidSyntax
  | outOfRange
deriving DecidableEq, Repr

/-- The wording of an `IntegerError`. -/
def IntegerError.reason : IntegerError → String
  | .invalidSyntax => "invalid syntax"
  | .outOfRange => "value out of range"

/-- The wording of a failure of the reader called `reader` on `text`. -/
def IntegerError.message (reader text : String) (error : IntegerError) : String :=
  "strconv." ++ reader ++ ": parsing " ++ Text.quote text ++ ": " ++ error.reason

/-- A word in decimal, with a minus sign when it is negative. -/
def text (n : Int64) : String :=
  toString n.toInt

/-- The value of a digit or letter, counting letters of either case from ten. -/
def digitValue? (c : Char) : Option Nat :=
  if '0' ≤ c ∧ c ≤ '9' then some (c.toNat - 0x30)
  else if 'a' ≤ c ∧ c ≤ 'z' then some (c.toNat - 0x61 + 10)
  else if 'A' ≤ c ∧ c ≤ 'Z' then some (c.toNat - 0x41 + 10)
  else none

/-- Reads digits of the given base from left to right, starting from `value`. The first digit that
is none, or that leaves the unsigned range of `bits` bits, decides the error. -/
def readDigits (bits base : Nat) : (value : Nat) → List Char → Except IntegerError Nat
  | value, [] => .ok value
  | value, c :: rest =>
    match digitValue? c with
    | none => .error .invalidSyntax
    | some d =>
      if base ≤ d then .error .invalidSyntax
      else if Nat.pow 2 bits ≤ value * base + d then .error .outOfRange
      else readDigits bits base (value * base + d) rest

/-- A sign in front of a text, and the text after it. -/
def splitSign : List Char → Bool × List Char
  | '-' :: rest => (true, rest)
  | '+' :: rest => (false, rest)
  | text => (false, text)

/-- The word of a sign and a magnitude, if it is in the signed range of `bits` bits. -/
def signedWord (bits : Nat) (negative : Bool) (magnitude : Nat) : Except IntegerError Int64 :=
  if negative then
    if Nat.pow 2 (bits - 1) < magnitude then .error .outOfRange
    else .ok (Int64.ofInt (-(magnitude : Int)))
  else
    if Nat.pow 2 (bits - 1) ≤ magnitude then .error .outOfRange
    else .ok (Int64.ofInt magnitude)

/-- Reads an optional sign and decimal digits as a signed integer of `bits` bits. -/
def readDecimalIn (bits : Nat) (text : List Char) : Except IntegerError Int64 :=
  let (negative, digits) := splitSign text
  match digits with
  | [] => .error .invalidSyntax
  | digits => readDigits bits 10 0 digits >>= signedWord bits negative

/-- Reads an optional sign and decimal digits as a word. -/
def readDecimal (text : List Char) : Except IntegerError Int64 :=
  readDecimalIn 64 text

/-- What an underscore may follow: the start, a digit, another underscore, or something else. -/
inductive Before where
  | start
  | digit
  | underscore
  | other
deriving DecidableEq

/-- Whether every underscore stands between two digits. The base mark counts as a digit. -/
def underscoresBetweenDigits (hex : Bool) : Before → List Char → Bool
  | before, [] => before != .underscore
  | before, c :: rest =>
    if ('0' ≤ c ∧ c ≤ '9') ∨ (hex ∧ (Text.hexValue? c).isSome) then
      underscoresBetweenDigits hex .digit rest
    else if c = '_' then
      before == .digit && underscoresBetweenDigits hex .underscore rest
    else
      before != .underscore && underscoresBetweenDigits hex .other rest

/-- Whether the underscores of a literal are placed well. -/
def underscoresWell (text : List Char) : Bool :=
  match (splitSign text).2 with
  | '0' :: mark :: rest =>
    if mark ∈ ['b', 'B', 'o', 'O'] then underscoresBetweenDigits false .digit rest
    else if mark ∈ ['x', 'X'] then underscoresBetweenDigits true .digit rest
    else underscoresBetweenDigits false .start ('0' :: mark :: rest)
  | digits => underscoresBetweenDigits false .start digits

/-- The base that the head of a literal announces, and the digits after the announcement. A leading
zero without a letter announces octal. -/
def announcedBase : List Char → Nat × List Char
  | '0' :: mark :: d :: rest =>
    if mark = 'b' ∨ mark = 'B' then (2, d :: rest)
    else if mark = 'o' ∨ mark = 'O' then (8, d :: rest)
    else if mark = 'x' ∨ mark = 'X' then (16, d :: rest)
    else (8, mark :: d :: rest)
  | '0' :: rest => (8, rest)
  | digits => (10, digits)

/-- The magnitude of a literal without sign, whose underscores are skipped. -/
def readMagnitude (digits : List Char) : Except IntegerError Nat :=
  match digits with
  | [] => .error .invalidSyntax
  | digits =>
    let (base, body) := announcedBase digits
    readDigits 64 base 0 (body.filter (· ≠ '_'))

/-- Reads a signed literal in the base it announces. -/
def readLiteral (text : List Char) : Except IntegerError Int64 := do
  let (negative, digits) := splitSign text
  let magnitude ← readMagnitude digits
  if text.contains '_' && !underscoresWell text then .error .invalidSyntax
  else signedWord 64 negative magnitude

end Interlock.Number
