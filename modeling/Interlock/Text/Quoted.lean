import Interlock.Text.Printable

/-! # Quoted text in messages

Messages show foreign text between quotes: printable characters as they are, the quote and the
backslash behind a backslash, the named controls by their letters, everything else by its number in
hexadecimal digits.

A text is a string of characters, except where a document hands over octets that are no UTF-8. Such
octets are kept, because they can be written again and because messages quote them. Where they are
only shown, each octet that belongs to no character stands for U+FFFD.
-/

namespace Interlock

namespace Text

/-! ## Hexadecimal fields -/

/-- Whether the digits above nine are small or capital letters. -/
inductive HexCase where
  | small
  | capital
deriving DecidableEq, Repr

/-- The digit of value `d`, for `d < 16`. -/
def hexDigit (letters : HexCase) (d : Nat) : Char :=
  if d < 10 then Char.ofNat (0x30 + d)
  else match letters with
    | .small => Char.ofNat (0x61 + (d - 10))
    | .capital => Char.ofNat (0x41 + (d - 10))

/-- The last `width` hexadecimal digits of `n`, leading zeros kept. -/
def hexField (letters : HexCase) : (width : Nat) → (n : Nat) → List Char
  | 0, _ => []
  | width + 1, n => hexField letters width (n / 16) ++ [hexDigit letters (n % 16)]

/-- The value of a hexadecimal digit of either case. -/
def hexValue? (c : Char) : Option Nat :=
  if '0' ≤ c ∧ c ≤ '9' then some (c.toNat - 0x30)
  else if 'a' ≤ c ∧ c ≤ 'f' then some (c.toNat - 0x61 + 10)
  else if 'A' ≤ c ∧ c ≤ 'F' then some (c.toNat - 0x41 + 10)
  else none

/-! ## Quotes -/

/-- The letter that names a control character after a backslash. -/
def controlLetter? (c : Char) : Option Char :=
  match c.toNat with
  | 0x07 => some 'a'
  | 0x08 => some 'b'
  | 0x0c => some 'f'
  | 0x0a => some 'n'
  | 0x0d => some 'r'
  | 0x09 => some 't'
  | 0x0b => some 'v'
  | _ => none

/-- One character between quotation marks `mark`. -/
def quoteChar (mark c : Char) : List Char :=
  if c = mark ∨ c = '\\' then ['\\', c]
  else if isPrintable c then [c]
  else match controlLetter? c with
    | some letter => ['\\', letter]
    | none =>
      let n := c.toNat
      if n < 0x20 ∨ n = 0x7f then '\\' :: 'x' :: hexField .small 2 n
      else if n < 0x10000 then '\\' :: 'u' :: hexField .small 4 n
      else '\\' :: 'U' :: hexField .small 8 n

/-- A text between double quotes. -/
def quote (text : String) : String :=
  String.ofList ('"' :: text.toList.flatMap (quoteChar '"') ++ ['"'])

/-- A single character between single quotes. -/
def quoteSingle (c : Char) : String :=
  String.ofList ('\'' :: quoteChar '\'' c ++ ['\''])

end Text

/-! ## Texts as they were given -/

/-- A text as it was given: characters, or octets that are no characters in UTF-8. -/
inductive RawText where
  | unicode (s : String)
  | octets (bytes : List UInt8)
deriving DecidableEq, Repr

namespace RawText

instance : Coe String RawText := ⟨.unicode⟩

/-- The text of octets. -/
def ofOctets (bytes : List UInt8) : RawText :=
  match String.fromUTF8? ⟨bytes.toArray⟩ with
  | some s => .unicode s
  | none => .octets bytes

/-- How many octets a UTF-8 sequence with this first octet has. -/
def sequenceWidth (first : UInt8) : Nat :=
  if first < 0x80 then 1 else if first < 0xe0 then 2 else if first < 0xf0 then 3 else 4

/-- Puts together what `character` makes of the characters among octets and `stray` of the octets
that belong to none. -/
def decode (character : Char → List Char) (stray : UInt8 → List Char) :
    (fuel : Nat) → List UInt8 → List Char
  | 0, _ | _, [] => []
  | fuel + 1, first :: rest =>
    let more := sequenceWidth first - 1
    match String.fromUTF8? ⟨(first :: rest.take more).toArray⟩ with
    | some s => s.toList.flatMap character ++ decode character stray fuel (rest.drop more)
    | none => stray first ++ decode character stray fuel rest

/-- The text with U+FFFD for every stray octet. -/
def shown : RawText → String
  | .unicode s => s
  | .octets bytes =>
    String.ofList (decode (fun c => [c]) (fun _ => ['\ufffd']) bytes.length bytes)

/-- The text between double quotes, with a stray octet by its number. -/
def quoted : RawText → String
  | .unicode s => Text.quote s
  | .octets bytes =>
    let stray (b : UInt8) : List Char := '\\' :: 'x' :: Text.hexField .small 2 b.toNat
    String.ofList ('"' :: decode (Text.quoteChar '"') stray bytes.length bytes ++ ['"'])

/-- What is shown of a string is the string. -/
@[simp]
theorem shown_unicode (s : String) : (unicode s).shown = s := rfl

end RawText

end Interlock
