import Interlock.Number.FloatLiteral
import Interlock.Text.Base64
import Interlock.Text.Quoted
import Interlock.Yaml.SyntaxError
import Interlock.Yaml.Timestamp

/-! # Tags and the values of scalars

A tag names the type of a node. A plain scalar without a tag is typed by what it looks like: a word
for nothing, a truth value, an integer, a floating-point number, a timestamp, or else a text.
-/

namespace Interlock.Yaml

/-- The type of a node. -/
inductive Tag where
  | text
  | bool
  | int
  | float
  | null
  | timestamp
  | sequence
  | mapping
  | merge
  | binary
  | other (name : String)
deriving DecidableEq, Repr

namespace Tag

/-- The short form of a tag. -/
def name : Tag → String
  | .text => "!!str"
  | .bool => "!!bool"
  | .int => "!!int"
  | .float => "!!float"
  | .null => "!!null"
  | .timestamp => "!!timestamp"
  | .sequence => "!!seq"
  | .mapping => "!!map"
  | .merge => "!!merge"
  | .binary => "!!binary"
  | .other name => name

/-- The tags that have a meaning of their own. -/
def known : List Tag :=
  [.text, .bool, .int, .float, .null, .timestamp, .sequence, .mapping, .merge, .binary]

/-- What the full form of a known tag starts with. -/
def fullStart : String := "tag:yaml.org,2002:"

/-- The tag of a full or short form. -/
def ofName (name : String) : Tag :=
  let short :=
    if fullStart.toList.isPrefixOf name.toList then
      "!!" ++ String.ofList (name.toList.drop fullStart.length)
    else name
  (known.find? (·.name = short)).getD (.other short)

/-- Whether scalars of the tag are read as what they look like; the others are read as text. -/
def isResolved : Tag → Bool
  | .text | .bool | .int | .float | .null | .timestamp => true
  | _ => false

/-- Whether a tag is that of sequences or of mappings. -/
def isCollection (t : Tag) : Bool :=
  t = .sequence || t = .mapping

end Tag

/-- The value of a scalar. Integers are those of 64 bits, signed or unsigned. -/
inductive Scalar where
  | null
  | bool (b : Bool)
  | int (n : Int)
  | float (x : Float)
  | timestamp
  | text (s : RawText)

namespace Scalar

/-- The tag that goes with a value. -/
def tag : Scalar → Tag
  | .null => .null
  | .bool _ => .bool
  | .int _ => .int
  | .float _ => .float
  | .timestamp => .timestamp
  | .text _ => .text

/-- The words that stand for a value that is no text. -/
def ofWord? (word : String) : Option Scalar :=
  if word ∈ ["true", "True", "TRUE"] then some (.bool true)
  else if word ∈ ["false", "False", "FALSE"] then some (.bool false)
  else if word ∈ ["", "~", "null", "Null", "NULL"] then some .null
  else if word ∈ [".nan", ".NaN", ".NAN"] then some (.float (0.0 / 0.0))
  else if word ∈ [".inf", ".Inf", ".INF", "+.inf", "+.Inf", "+.INF"] then some (.float (1.0 / 0.0))
  else if word ∈ ["-.inf", "-.Inf", "-.INF"] then some (.float (-1.0 / 0.0))
  else none

/-- Reads an integer in the base that its head announces. Beyond the signed range only an unsigned
integer without sign is read. -/
def integer? (digits : List Char) : Option Int :=
  match Number.readLiteral digits with
  | .ok n => some n.toInt
  | .error _ => (Number.readMagnitude digits).toOption.map Int.ofNat

/-- Reads digits of a base behind a sign of their own. -/
def integerIn? (base : Nat) (text : List Char) : Option Int :=
  let (negative, digits) := Number.splitSign text
  match digits, Number.readDigits 64 base 0 digits with
  | [], _ => none
  | _, .error _ => none
  | _, .ok n =>
    if negative then (if n ≤ Nat.pow 2 63 then some (-(n : Int)) else none)
    else if text = digits ∨ n < Nat.pow 2 63 then some n
    else none

/-- Reads an integer whose sign stands behind the mark of its base. -/
def markedInteger? : List Char → Option Int
  | '0' :: 'b' :: rest => integerIn? 2 rest
  | '0' :: 'o' :: rest => integerIn? 8 rest
  | _ => none

/-- Reads a text that starts with a digit or a sign as a number. Underscores are skipped. -/
def number? (text : List Char) : Option Scalar :=
  let digits := text.filter (· ≠ '_')
  match integer? digits with
  | some n => some (.int n)
  | none =>
    match Number.readFloat? digits with
    | some x => some (.float x)
    | none => (markedInteger? digits).map .int

/-- The value that a plain text looks like, decided by its first character. Dates count only where
`dates` is set. -/
def ofPlain (text : String) (dates : Bool) : Scalar :=
  match ofWord? text with
  | some value => value
  | none =>
    match text.toList with
    | [] => .null
    | first :: rest =>
      if first = '.' then ((Number.readSpacedFloat? (first :: rest)).map .float).getD (.text text)
      else if first.isDigit || first = '+' || first = '-' then
        if dates && Timestamp.isTimestamp (first :: rest) then .timestamp
        else (number? (first :: rest)).getD (.text text)
      else .text text

/-- The value of a scalar under a tag, with the tag it turned out to have. A text that does not fit
its tag has none; an integer fits the tag of floating-point numbers. -/
def resolve (tag : Tag) (text : String) : Except SyntaxCause (Tag × Scalar) :=
  match tag with
  | .text => .ok (.text, .text text)
  | .binary =>
    match Text.readBase64? text.toList with
    | some octets => .ok (.binary, .text (.ofOctets octets))
    | none => .error .binaryData
  | tag =>
    if !tag.isResolved then .ok (tag, .text text)
    else
      let value := ofPlain text (tag = .timestamp)
      if value.tag = tag then .ok (tag, value)
      else match tag, value with
        | .float, .int n =>
          if n < Int.pow 2 63 then .ok (.float, .float (Float.ofInt n))
          else .error (.tagMismatch value.tag.name text tag.name)
        | _, _ => .error (.tagMismatch value.tag.name text tag.name)

/-- The tag of a plain scalar that has none. -/
def plainTag (text : String) : Tag :=
  (ofPlain text true).tag

end Scalar

end Interlock.Yaml
