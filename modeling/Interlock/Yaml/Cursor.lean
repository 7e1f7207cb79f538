import Interlock.Yaml.SyntaxError

/-! # Places in a YAML text

A cursor is a place in a text with the text from there on. It counts lines and columns, because the
indentation of YAML is its structure, and it knows whether the line so far is blank.

A text is taken in by blocks of 512 octets, and only when it is asked for. A character that may not
occur in a text is noticed as soon as its block is taken in, and never if that does not happen.
-/

namespace Interlock.Yaml

/-- Whether a character ends a line. -/
def isBreak (c : Char) : Bool :=
  c = '\n' || c = '\r' || c = '\x85' || c = '\u2028' || c = '\u2029'

/-- Whether a character separates words within a line. -/
def isBlank (c : Char) : Bool :=
  c = ' ' || c = '\t'

/-- Whether a character may stand in the name of an anchor, a tag handle or a directive. -/
def isWordChar (c : Char) : Bool :=
  c.isAlphanum || c = '_' || c = '-'

/-- Whether a word ends in front of a text: at a blank, at a line break or at the end. -/
def wordEnds : List Char → Bool
  | [] => true
  | c :: _ => isBlank c || isBreak c

/-- Whether a character may occur in a YAML text at all. -/
def isAllowed (c : Char) : Bool :=
  let n := c.toNat
  n = 0x09 || n = 0x0a || n = 0x0d || (0x20 ≤ n && n ≤ 0x7e) || n = 0x85 ||
    (0xa0 ≤ n && n ≤ 0xd7ff) || (0xe000 ≤ n && n ≤ 0xfffd) || 0x10000 ≤ n

/-- How many characters at the start of a text satisfy `p`, counted up to a limit. -/
def countWhile (p : Char → Bool) : (limit : Nat) → List Char → Nat
  | 0, _ | _, [] => 0
  | limit + 1, c :: rest => if p c then countWhile p limit rest + 1 else 0

/-- The mark that may stand in front of a text. -/
def byteOrderMark : Char := '\ufeff'

/-- How many octets are taken in at once. -/
def blockSize : Nat := 512

/-- A place in a text. Lines and columns count from zero. -/
structure Cursor where
  /-- The text from here on. -/
  rest : List Char
  /-- How many characters from here on have been taken in. Each request beyond the end of the text
  counts as one character more. -/
  atHand : Nat := 0
  /-- The text that has not been taken in. -/
  ahead : List Char
  /-- How many octets the next block has. -/
  room : Nat := blockSize
  /-- Whether a byte order mark stood at the place where the cursor was when text was last taken in.
  -/
  marked : Bool := false
  /-- The length of the whole text. A loop that passes a character in each round ends within as many
  rounds. -/
  size : Nat
  /-- Characters in front of this place. -/
  index : Nat := 0
  line : Nat := 0
  column : Nat := 0
  /-- Set from a line break on, until something other than a blank is passed. -/
  fresh : Bool := false

namespace Cursor

/-- The start of a text. A byte order mark in front of it is not part of it, but takes its room in
the first block. -/
def ofText (text : String) : Cursor :=
  match text.toList with
  | [] => { rest := [], ahead := [], size := 0 }
  | c :: rest =>
    if c = byteOrderMark then
      { rest, ahead := rest, room := blockSize - byteOrderMark.utf8Size, size := rest.length }
    else { rest := c :: rest, ahead := c :: rest, size := rest.length + 1 }

/-- A fault noticed at a cursor. -/
def fault {α : Type} (c : Cursor) (cause : SyntaxCause) : Except SyntaxError α :=
  .error ⟨c.line, cause⟩

/-! ## Taking in text -/

/-- The length of the block that a text starts with and the text after it; none if a character of
the block may not occur. -/
def block? : (room : Nat) → (taken : Nat) → List Char → Option (Nat × List Char)
  | _, taken, [] => some (taken, [])
  | room, taken, c :: rest =>
    if room < c.utf8Size then some (taken, c :: rest)
    else if isAllowed c then block? (room - c.utf8Size) (taken + 1) rest
    else none

/-- Takes in blocks until `n` characters are at hand, or the end of the text is. -/
def takeIn (n : Nat) : (fuel : Nat) → Cursor → Except SyntaxError Cursor
  | 0, c => .ok c
  | fuel + 1, c =>
    if n ≤ c.atHand then .ok c
    else if c.ahead.isEmpty then .ok { c with atHand := c.atHand + 1 }
    else match block? c.room 0 c.ahead with
      | none => c.fault .character
      | some (taken, ahead) =>
        takeIn n fuel { c with atHand := c.atHand + taken, ahead, room := blockSize }

/-- Asks for `n` characters from here on. -/
def need (n : Nat) (c : Cursor) : Except SyntaxError Cursor :=
  if n ≤ c.atHand then .ok c
  else takeIn n n { c with marked := c.rest.head? = some byteOrderMark }

/-! ## Moving on -/

/-- Passes one character, which does not count as the end of a line. -/
def advance (c : Cursor) : Cursor :=
  { c with
    rest := c.rest.tail
    atHand := c.atHand - 1
    index := c.index + 1
    column := c.column + 1
    fresh := c.fresh && (c.rest.head?.map isBlank).getD false }

/-- Passes `n` characters of one line. -/
def advanceBy (c : Cursor) : (n : Nat) → Cursor
  | 0 => c
  | n + 1 => c.advance.advanceBy n

/-- The place at the start of the next line, after a line break of `width` characters. -/
def nextLine (c : Cursor) (width : Nat) (rest : List Char) : Cursor :=
  { c with
    rest
    atHand := c.atHand - width
    index := c.index + width
    line := c.line + 1
    column := 0
    fresh := true }

/-- Passes a line break and returns what it contributes to a scalar: the separators of lines and
paragraphs themselves, and a line feed for all others. Elsewhere nothing is passed. -/
def lineBreak (c : Cursor) : Except SyntaxError (List Char × Cursor) := do
  let c ← c.need 2
  match c.rest with
  | '\r' :: '\n' :: rest => return (['\n'], c.nextLine 2 rest)
  | x :: rest =>
    if x = '\u2028' || x = '\u2029' then return ([x], c.nextLine 1 rest)
    else if isBreak x then return (['\n'], c.nextLine 1 rest)
    else return ([], c)
  | [] => return ([], c)

/-- Passes the longest run of characters of one line that satisfy `p`, and returns it behind the
characters `taken`, which are in reverse order. -/
def takeWhileFrom (p : Char → Bool) :
    (fuel : Nat) → (taken : List Char) → Cursor → Except SyntaxError (List Char × Cursor)
  | 0, taken, c => .ok (taken.reverse, c)
  | fuel + 1, taken, c => do
    let c ← c.need 1
    match c.rest with
    | [] => return (taken.reverse, c)
    | x :: _ =>
      if p x && !isBreak x then takeWhileFrom p fuel (x :: taken) c.advance
      else return (taken.reverse, c)

/-- Passes the longest run of characters of one line that satisfy `p`, and returns it. -/
def takeWhile (p : Char → Bool) (c : Cursor) : Except SyntaxError (List Char × Cursor) :=
  c.takeWhileFrom p (c.size + 1) []

/-- Passes the longest run of characters of one line that satisfy `p`. -/
def skipWhile (p : Char → Bool) (c : Cursor) : Except SyntaxError Cursor := do
  return (← c.takeWhile p).2

/-- Passes the rest of the line. -/
def skipLine (c : Cursor) : Except SyntaxError Cursor :=
  c.skipWhile fun _ => true

/-! ## Looking around -/

/-- Whether the cursor stands at a line break. -/
def atBreak (c : Cursor) : Bool :=
  match c.rest with
  | x :: _ => isBreak x
  | [] => false

/-- Whether the cursor stands at a certain character. -/
def isAt (c : Cursor) (x : Char) : Bool :=
  c.rest.head? = some x

/-- Whether a word ends here. -/
def atWordEnd (c : Cursor) : Bool :=
  wordEnds c.rest

/-- Whether the cursor stands at a line break or at the end of the text. -/
def atLineEnd (c : Cursor) : Bool :=
  c.rest.isEmpty || c.atBreak

/-- Whether a line starts here with a word made of three times `mark`. -/
def atDocumentMark (c : Cursor) (mark : Char) : Bool :=
  c.column = 0 && c.rest.take 3 = [mark, mark, mark] && wordEnds (c.rest.drop 3)

/-- Whether a line starts here with one of the words `---` and `...`. -/
def atDocumentBoundary (c : Cursor) : Bool :=
  c.atDocumentMark '-' || c.atDocumentMark '.'

end Cursor

end Interlock.Yaml
