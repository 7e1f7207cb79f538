import Interlock.Yaml.Scalar
import Interlock.Yaml.Token.Content

/-! # How a text is written as a scalar

A text is written plain where that reads back as the same text. Otherwise it goes between quotes,
or, if it has several lines, into a literal block. What its characters allow decides between these.
-/

namespace Interlock.Yaml

/-- The ways to write a scalar. -/
inductive Style where
  | plain
  | single
  | double
  | literal
deriving DecidableEq, Repr

/-- Where a scalar stands. -/
inductive Context where
  | block
  | flow
deriving DecidableEq, Repr

/-- Whether a character may be written as it is. -/
def isPlainPrintable (c : Char) : Bool :=
  let n := c.toNat
  n = 0x0a || (0x20 ≤ n && n ≤ 0x7e) || (0xa0 ≤ n && n ≤ 0xd7ff) ||
    (0xe000 ≤ n && n ≤ 0xfffd && n ≠ 0xfeff)

/-- The characters of a text, each with the one before it and the one after it. -/
def neighbours (text : List Char) : List (Option Char × Char × Option Char) :=
  (none :: text.map some).zip (text.zip ((text.drop 1).map some ++ [none]))

/-- Whether a blank or the end follows. -/
def blankNext (next : Option Char) : Bool :=
  (next.map isBlank).getD true

/-- Whether a character in its place has a meaning within flow collections. -/
def hasFlowMeaning : Option Char × Char × Option Char → Bool
  | (none, c, next) =>
    "#,[]\x7b\x7d&*!|>'\"%@`?:".toList.contains c || (c = '-' && blankNext next)
  | (some before, c, _) =>
    ",?[]\x7b\x7d:".toList.contains c || (c = '#' && (isBlank before || isBreak before))

/-- Whether a character in its place has a meaning outside of flow collections. -/
def hasBlockMeaning : Option Char × Char × Option Char → Bool
  | (none, c, next) =>
    "#,[]\x7b\x7d&*!|>'\"%@`".toList.contains c ||
      ("?:-".toList.contains c && blankNext next)
  | (some before, c, next) =>
    (c = ':' && blankNext next) || (c = '#' && (isBlank before || isBreak before))

/-- Whether a text starts with a mark that separates documents. -/
def startsLikeMark (text : List Char) : Bool :=
  text.take 3 = ['-', '-', '-'] || text.take 3 = ['.', '.', '.']

/-- Whether a character that satisfies `p` is followed by one that satisfies `q`. -/
def hasPair (p q : Char → Bool) (text : List Char) : Bool :=
  (text.zip (text.drop 1)).any fun (a, b) => p a && q b

/-- Whether a text has characters that must be escaped. -/
def hasSpecial (text : List Char) : Bool :=
  text.any fun c => c ≠ '\t' && !isPlainPrintable c

/-- Whether a text can be written plain, as far as its characters go. -/
def allowsPlain (context : Context) (text : List Char) : Bool :=
  if text.isEmpty then context = .block
  else
    let edges := [text.head?, text.getLast?].any (· = some ' ')
    let meaning := match context with
      | .flow => hasFlowMeaning
      | .block => hasBlockMeaning
    !edges && !text.any isBreak && !text.contains '\t' && !hasSpecial text &&
      !startsLikeMark text && !(neighbours text).any meaning

/-- Whether a text can be written between single quotes. -/
def allowsSingle (text : List Char) : Bool :=
  !hasPair isBreak (· = ' ') text && !hasPair (· = ' ') isBreak text && !text.contains '\t' &&
    !hasSpecial text

/-- Whether a text can be written as a literal block. -/
def allowsLiteral (text : List Char) : Bool :=
  !text.isEmpty && text.getLast? ≠ some ' ' && !hasPair (· = ' ') isBreak text && !hasSpecial text

/-- Whether a text is a number in base 60, which some readers know: groups of digits, parted by
colons, with an optional sign and fraction. -/
def isSexagesimal (text : List Char) : Bool :=
  let (_, body) := Number.splitSign text
  let isPart (c : Char) : Bool := c.isDigit || c = '_'
  let (first, rest) := body.span isPart
  let rec groups : (fuel : Nat) → List Char → Bool
    | 0, _ => false
    | fuel + 1, ':' :: a :: rest =>
      let more (rest : List Char) : Bool :=
        match rest with
        | [] => true
        | '.' :: fraction => fraction.all isPart
        | rest => groups fuel rest
      let two := match rest with
        | b :: rest => '0' ≤ a && a ≤ '5' && b.isDigit && more rest
        | [] => false
      a.isDigit && (two || more rest)
    | _, _ => false
  (first.head?.map Char.isDigit).getD false && groups text.length rest

/-- Words that some readers take for truth values. -/
def isOldTruthValue (text : String) : Bool :=
  text ∈ ["y", "Y", "yes", "Yes", "YES", "on", "On", "ON", "n", "N", "no", "No", "NO", "off", "Off",
    "OFF"]

/-- Whether a text is read back as a text when it is written plain. -/
def readsAsText (text : String) : Bool :=
  Scalar.plainTag text = .text && !isSexagesimal text.toList && !isOldTruthValue text

/-- The style of a text. -/
def styleOf (context : Context) (text : String) : Style :=
  let chars := text.toList
  if chars.contains '\n' then
    if context = .block && allowsLiteral chars then .literal else .double
  else if !readsAsText text then .double
  else if allowsPlain context chars then .plain
  else if allowsSingle chars then .single
  else .double

/-- The letter that names a character after a backslash. -/
def escapeName? (c : Char) : Option Char :=
  ['0', 'a', 'b', 't', 'n', 'v', 'f', 'r', 'e', '"', '\\', 'N', '_', 'L', 'P'].find?
    fun letter => escapeLetter? letter = some c

/-- A character behind a backslash, by its letter or its number. -/
def escaped (c : Char) : List Char :=
  match escapeName? c with
  | some letter => ['\\', letter]
  | none =>
    let n := c.toNat
    if n ≤ 0xff then '\\' :: 'x' :: Text.hexField .capital 2 n
    else if n ≤ 0xffff then '\\' :: 'u' :: Text.hexField .capital 4 n
    else '\\' :: 'U' :: Text.hexField .capital 8 n

/-- A text between double quotes. In a text that starts with a byte order mark every character is
escaped. -/
def doubleQuoted (text : List Char) : List Char :=
  let marked := text.head? = some '\ufeff'
  let write (c : Char) : List Char :=
    if marked || !isPlainPrintable c || isBreak c || c = '"' || c = '\\' then escaped c else [c]
  '"' :: text.flatMap write ++ ['"']

/-- A number of spaces. -/
def spaces (n : Nat) : List Char :=
  List.replicate n ' '

/-- The inside of single quotes. What follows a line break is indented. -/
def singleBody (indent : Nat) : (afterBreak : Bool) → List Char → List Char
  | _, [] => []
  | afterBreak, c :: rest =>
    if c = ' ' then ' ' :: singleBody indent afterBreak rest
    else if isBreak c then c :: singleBody indent true rest
    else
      (if afterBreak then spaces indent else []) ++ (if c = '\'' then ['\'', '\''] else [c]) ++
        singleBody indent false rest

/-- The lines of a literal block. The first line break of the text serves as the end of the header
if the text starts with it. -/
def literalBody (indent : Nat) : (header lineStart : Bool) → List Char → List Char
  | _, _, [] => []
  | header, lineStart, c :: rest =>
    if isBreak c then c :: literalBody indent false true rest
    else if lineStart then
      (if header then ['\n'] else []) ++ spaces indent ++ c :: literalBody indent false false rest
    else c :: literalBody indent false false rest

/-- The header of a literal block: the step of indentation if the first line does not show it, and
what becomes of the line breaks at the end. -/
def literalHeader (step : Nat) (text : List Char) : List Char :=
  let hint := match text.head? with
    | some c => if c = ' ' || isBreak c then (toString step).toList else []
    | none => []
  let chomping := match text.reverse with
    | last :: before =>
      if !isBreak last then ['-']
      else if (before.head?.map isBreak).getD true then ['+']
      else []
    | [] => ['-']
  '|' :: hint ++ chomping

/-- Characters in a style, with the line break after them. -/
def styledLine (style : Style) (step indent : Nat) (chars : List Char) : List Char :=
  match style with
  | .plain => chars ++ ['\n']
  | .single => '\'' :: singleBody indent false chars ++ ['\'', '\n']
  | .double => doubleQuoted chars ++ ['\n']
  | .literal =>
    let ended := (chars.getLast?.map isBreak).getD false
    literalHeader step chars ++ literalBody indent true true chars ++ (if ended then [] else ['\n'])

/-- The longest line of octets in base 64. -/
def binaryWidth : Nat := 70

/-- Octets as a scalar with a tag of its own: in base 64, on one line if that is not too long. -/
def binaryLine (step indent : Nat) (octets : List UInt8) : List Char :=
  let encoded := Text.base64 octets
  "!!binary ".toList ++
    if encoded.length < binaryWidth then styledLine .plain step indent encoded
    else styledLine .literal step indent (Text.inLines binaryWidth encoded.length encoded)

/-- A text as a scalar, with the line break after it. Lines of its own are indented by `indent`. -/
def scalarLine (context : Context) (step indent : Nat) : RawText → List Char
  | .unicode text => styledLine (styleOf context text) step indent text.toList
  | .octets octets => binaryLine step indent octets

/-- A text as an item of a flow sequence. -/
def flowItem (text : String) : List Char :=
  let chars := text.toList
  match styleOf .flow text with
  | .plain => chars
  | .single => '\'' :: singleBody 0 false chars ++ ['\'']
  | _ => doubleQuoted chars

end Interlock.Yaml
