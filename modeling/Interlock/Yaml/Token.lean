import Interlock.Text.Quoted
import Interlock.Yaml.Cursor

/-! # Tokens

A YAML text is a sequence of tokens. Indentation is made explicit in it: a block collection has a
token where it starts and one where it ends. The module also holds what stands in front of a node,
and in front of a document: anchors, tags and directives.
-/

namespace Interlock.Yaml

/-- What a token is. -/
inductive TokenKind where
  | streamEnd
  | version (major minor : Nat)
  | tagPrefix (handle text : String)
  | documentStart
  | documentEnd
  | blockSequenceStart
  | blockMappingStart
  | blockEnd
  | flowSequenceStart
  | flowSequenceEnd
  | flowMappingStart
  | flowMappingEnd
  | blockEntry
  | flowEntry
  | key
  | value
  | reference (name : String)
  | anchor (name : String)
  | tag (handle suffix : String)
  | scalar (text : String) (plain : Bool)
deriving DecidableEq, Repr

/-- A token and the line it starts on, counted from zero. -/
structure Token where
  kind : TokenKind
  line : Nat
deriving DecidableEq, Repr

/-! ## Tags -/

/-- Characters of a tag beyond those of a name. -/
def isUriMark (c : Char) : Bool :=
  ";/?:@&=+$,.!~*'()[]%".toList.contains c

/-- The octet that a percent sign and two hexadecimal digits stand for. -/
def escapedOctet? : List Char → Option UInt8
  | '%' :: a :: b :: _ => do
    let high ← Text.hexValue? a
    let low ← Text.hexValue? b
    return UInt8.ofNat (high * 16 + low)
  | _ => none

/-- How many octets a character takes whose first octet is given. -/
def octetWidth? (first : UInt8) : Option Nat :=
  if first < 0x80 then some 1
  else if 0xc0 ≤ first ∧ first < 0xe0 then some 2
  else if 0xe0 ≤ first ∧ first < 0xf0 then some 3
  else if 0xf0 ≤ first ∧ first < 0xf8 then some 4
  else none

/-- Reads `n` octets that continue a character, behind those in front of them. -/
def Cursor.trailingOctets : (n : Nat) → (octets : List UInt8) → Cursor →
    Except SyntaxError (List UInt8 × Cursor)
  | 0, octets, c => .ok (octets, c)
  | n + 1, octets, c => do
    let c ← c.need 3
    match escapedOctet? c.rest with
    | some octet =>
      if 0x80 ≤ octet ∧ octet < 0xc0 then (c.advanceBy 3).trailingOctets n (octets ++ [octet])
      else c.fault .tagName
    | none => c.fault .tagName

/-- Reads one character of a tag that is escaped octet by octet. Octets that have the form of a
character but stand for none are shown as U+FFFD each. -/
def Cursor.escapedCharacter (c : Cursor) : Except SyntaxError (List Char × Cursor) := do
  let c ← c.need 3
  match escapedOctet? c.rest with
  | none => c.fault .tagName
  | some first =>
    match octetWidth? first with
    | none => c.fault .tagName
    | some width =>
      let (octets, next) ← (c.advanceBy 3).trailingOctets (width - 1) [first]
      match String.fromUTF8? ⟨octets.toArray⟩ with
      | some character => return (character.toList, next)
      | none => return (List.replicate width '\ufffd', next)

/-- Reads the characters of a tag behind the text read so far, which is in reverse order. -/
def Cursor.uri : (fuel : Nat) → (text : List Char) → Cursor →
    Except SyntaxError (List Char × Cursor)
  | 0, text, c => .ok (text.reverse, c)
  | fuel + 1, text, c => do
    let c ← c.need 1
    match c.rest with
    | [] => return (text.reverse, c)
    | x :: _ =>
      if x = '%' then
        let (decoded, next) ← c.escapedCharacter
        next.uri fuel (decoded.reverse ++ text)
      else if isWordChar x || isUriMark x then c.advance.uri fuel (x :: text)
      else return (text.reverse, c)

/-- Reads a tag that must not be empty. -/
def Cursor.someUri (c : Cursor) : Except SyntaxError (List Char × Cursor) := do
  let (text, next) ← c.uri (c.size + 1) []
  if text.isEmpty then c.fault .tagName else return (text, next)

/-- Reads what may be a tag handle: a name between exclamation marks, of which the second may be
missing. -/
def Cursor.handle (c : Cursor) : Except SyntaxError (List Char × Cursor) := do
  let (name, next) ← c.advance.takeWhile isWordChar
  if next.isAt '!' then return ('!' :: name ++ ['!'], next.advance)
  else return ('!' :: name, next)

/-- Reads a tag: a handle and a suffix, or a full tag between angle brackets, which has no handle.
-/
def Cursor.tag (c : Cursor) : Except SyntaxError (TokenKind × Cursor) := do
  let c ← c.need 2
  let (kind, next) ←
    if c.rest.take 2 = ['!', '<'] then do
      let (suffix, next) ← (c.advanceBy 2).someUri
      if next.isAt '>' then pure (.tag "" (String.ofList suffix), next.advance)
      else next.fault .tagName
    else do
      let (name, next) ← c.handle
      if 1 < name.length ∧ name.getLast? = some '!' then
        let (suffix, next) ← next.someUri
        pure (.tag (String.ofList name) (String.ofList suffix), next)
      else
        let (suffix, next) ← next.uri (next.size + 1) (name.drop 1).reverse
        pure (if suffix.isEmpty then .tag "" "!" else .tag "!" (String.ofList suffix), next)
  let next ← next.need 1
  if next.atWordEnd then return (kind, next) else next.fault .tagName

/-! ## Anchors -/

/-- Reads the name of an anchor from behind its mark. -/
def Cursor.anchorName (c : Cursor) : Except SyntaxError (String × Cursor) := do
  let (name, next) ← c.takeWhile isWordChar
  let ends := match next.rest with
    | x :: _ => next.atWordEnd || "?:,]\x7d%@`".toList.contains x
    | [] => true
  if name.isEmpty || !ends then next.fault .anchorName else return (String.ofList name, next)

/-! ## Directives -/

/-- Reads a version number of at most two digits on either side of the point. -/
def Cursor.version (c : Cursor) : Except SyntaxError (TokenKind × Cursor) := do
  let number (c : Cursor) : Except SyntaxError (Nat × Cursor) := do
    let (digits, next) ← c.takeWhile Char.isDigit
    if digits.isEmpty || 2 < digits.length then c.fault .directive
    else return (digits.foldl (fun n d => n * 10 + (d.toNat - 0x30)) 0, next)
  let (major, next) ← number c
  if next.isAt '.' then
    let (minor, next) ← number next.advance
    return (.version major minor, next)
  else next.fault .directive

/-- Reads the handle and the text that a tag directive binds. -/
def Cursor.tagPrefix (c : Cursor) : Except SyntaxError (TokenKind × Cursor) := do
  if !c.isAt '!' then c.fault .directive
  else
    let (name, next) ← c.handle
    let next ← next.need 1
    if name.length ≠ 1 ∧ name.getLast? ≠ some '!' then next.fault .directive
    else if !(next.rest.head?.map isBlank).getD false then next.fault .directive
    else
      let (text, next) ← (← next.skipWhile isBlank).someUri
      if next.atWordEnd then
        return (.tagPrefix (String.ofList name) (String.ofList text), next)
      else next.fault .directive

/-- Reads a directive, which takes its line. -/
def Cursor.directive (c : Cursor) : Except SyntaxError (TokenKind × Cursor) := do
  let (name, next) ← c.advance.takeWhile isWordChar
  if name.isEmpty || !next.atWordEnd then next.fault .directive
  else
    let value ← next.skipWhile isBlank
    let (kind, next) ←
      if name = "YAML".toList then value.version
      else if name = "TAG".toList then value.tagPrefix
      else c.fault .directive
    let next ← next.skipWhile isBlank
    let next ← if next.isAt '#' then next.skipLine else pure next
    if next.atLineEnd then return (kind, (← next.lineBreak).2) else next.fault .directive

end Interlock.Yaml
