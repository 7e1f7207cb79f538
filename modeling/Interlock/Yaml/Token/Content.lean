import Interlock.Text.Quoted
import Interlock.Yaml.Cursor

/-! # The contents of scalars

Scalars are written plain, between single or double quotes, or as an indented block. Except in a
literal block, a line break within a scalar is folded: alone it stands for a space, and of several
the first is dropped. What has been read of a text is kept in reverse order.
-/

namespace Interlock.Yaml

/-- Blanks and line breaks between two words of a scalar. Blanks and further line breaks are kept in
reverse order. -/
structure Gap where
  /-- Blanks in front of the first line break. -/
  blanks : List Char := []
  /-- What the first line break contributes; absent if there is none. -/
  firstBreak : Option (List Char) := none
  /-- What all further line breaks contribute. -/
  moreBreaks : List Char := []

/-- The text that a gap stands for, in reverse order. -/
def Gap.folded (g : Gap) : List Char :=
  match g.firstBreak with
  | none => g.blanks
  | some ['\n'] => if g.moreBreaks.isEmpty then [' '] else g.moreBreaks
  | some b => g.moreBreaks ++ b

/-- Passes blanks and line breaks. In front of column `indent` a line may not be indented by tabs.
-/
def Cursor.gap (indent : Int) : (fuel : Nat) → Gap → Cursor → Except SyntaxError (Gap × Cursor)
  | 0, g, c => .ok (g, c)
  | fuel + 1, g, c => do
    let c ← c.need 1
    match c.rest with
    | [] => return (g, c)
    | x :: _ =>
      if isBlank x then
        if g.firstBreak.isSome then
          if x = '\t' ∧ (c.column : Int) < indent then c.fault .tabIndentation
          else c.advance.gap indent fuel g
        else c.advance.gap indent fuel { g with blanks := x :: g.blanks }
      else if isBreak x then
        let (text, next) ← c.lineBreak
        match g.firstBreak with
        | none => next.gap indent fuel { g with blanks := [], firstBreak := some text }
        | some _ => next.gap indent fuel { g with moreBreaks := text ++ g.moreBreaks }
      else return (g, c)

/-! ## Plain scalars -/

/-- Characters that structure flow collections. -/
def isFlowIndicator (c : Char) : Bool :=
  c = ',' || c = '[' || c = ']' || c = '{' || c = '}'

/-- Whether a plain scalar ends in front of a text, within a flow collection or outside. -/
def plainEnds (inFlow : Bool) : List Char → Bool
  | [] => true
  | ':' :: rest => wordEnds rest
  | c :: _ => isBlank c || isBreak c || (inFlow && (c = '?' || isFlowIndicator c))

/-- Passes the characters of one word of a plain scalar and returns them behind the text `taken`. -/
def Cursor.plainWord (inFlow : Bool) :
    (fuel : Nat) → (taken : List Char) → Cursor → Except SyntaxError (List Char × Cursor)
  | 0, taken, c => .ok (taken, c)
  | fuel + 1, taken, c => do
    let c ← c.need 2
    match c.rest with
    | [] => return (taken, c)
    | x :: _ =>
      if plainEnds inFlow c.rest then return (taken, c)
      else c.advance.plainWord inFlow fuel (x :: taken)

/-- Reads a plain scalar: words, joined by the gaps between them. `indent` is the column that
further lines must reach outside flow collections. The flag tells whether the scalar was followed by
a line break. -/
def Cursor.plain (inFlow : Bool) (indent : Int) :
    (fuel : Nat) → (text : List Char) → Gap → Cursor →
      Except SyntaxError (List Char × Bool × Cursor)
  | 0, text, gap, c => .ok (text, gap.firstBreak.isSome, c)
  | fuel + 1, text, gap, c => do
    let c ← c.need 4
    if c.atDocumentBoundary || c.isAt '#' then return (text, gap.firstBreak.isSome, c)
    else
      let joined := if plainEnds inFlow c.rest then text else gap.folded ++ text
      let gap : Gap := if plainEnds inFlow c.rest then gap else {}
      let (text, next) ← c.plainWord inFlow (c.size + 1) joined
      if next.rest.isEmpty || !next.atWordEnd then return (text, gap.firstBreak.isSome, next)
      else
        let (gap, next) ← next.gap indent (next.size + 1) gap
        if !inFlow && (next.column : Int) < indent then
          return (text, gap.firstBreak.isSome, next)
        else next.plain inFlow indent fuel text gap

/-! ## Quoted scalars -/

/-- The character that a letter names after a backslash. -/
def escapeLetter? : Char → Option Char
  | '0' => some '\x00'
  | 'a' => some '\x07'
  | 'b' => some '\x08'
  | 't' | '\t' => some '\t'
  | 'n' => some '\n'
  | 'v' => some '\x0b'
  | 'f' => some '\x0c'
  | 'r' => some '\r'
  | 'e' => some '\x1b'
  | ' ' => some ' '
  | '"' => some '"'
  | '\'' => some '\''
  | '\\' => some '\\'
  | 'N' => some '\x85'
  | '_' => some '\xa0'
  | 'L' => some '\u2028'
  | 'P' => some '\u2029'
  | _ => none

/-- How many hexadecimal digits follow a letter after a backslash. -/
def escapeWidth? : Char → Option Nat
  | 'x' => some 2
  | 'u' => some 4
  | 'U' => some 8
  | _ => none

/-- The character whose number hexadecimal digits give. -/
def hexCharacter? (digits : List Char) : Option Char := do
  let values ← digits.mapM Text.hexValue?
  let n := values.foldl (fun n d => n * 16 + d) 0
  if (0xd800 ≤ n ∧ n ≤ 0xdfff) ∨ 0x10ffff < n then none else some (Char.ofNat n)

/-- Reads the escape at a backslash that does not stand at the end of its line. -/
def Cursor.escape (c : Cursor) : Except SyntaxError (Char × Cursor) :=
  match c.rest with
  | _ :: letter :: _ =>
    match escapeLetter? letter, escapeWidth? letter with
    | some x, _ => .ok (x, c.advanceBy 2)
    | none, some width => do
      let next ← (c.advanceBy 2).need width
      let digits := next.rest.take width
      match hexCharacter? digits with
      | some x =>
        if digits.length < width then c.fault .escape else return (x, next.advanceBy width)
      | none => c.fault .escape
    | none, none => c.fault .escape
  | _ => c.fault .escape

/-- Reads up to the next gap or to the closing quote, behind the text read so far. The flag tells
whether an escaped line break was passed at the end. -/
def Cursor.quotedWord (quote : Char) :
    (fuel : Nat) → (text : List Char) → Cursor → Except SyntaxError (List Char × Bool × Cursor)
  | 0, text, c => .ok (text, false, c)
  | fuel + 1, text, c => do
    let c ← c.need 2
    match c.rest with
    | [] => return (text, false, c)
    | x :: rest =>
      if isBlank x || isBreak x then return (text, false, c)
      else if x = quote then
        if quote = '\'' ∧ rest.head? = some '\'' then
          (c.advanceBy 2).quotedWord quote fuel ('\'' :: text)
        else return (text, false, c)
      else if x = '\\' ∧ quote = '"' then
        if c.advance.atBreak then
          let c ← c.need 3
          let (_, next) ← c.advance.lineBreak
          return (text, true, next)
        else
          let (x, next) ← c.escape
          next.quotedWord quote fuel (x :: text)
      else c.advance.quotedWord quote fuel (x :: text)

/-- Reads a quoted scalar from behind its opening quote. -/
def Cursor.quoted (quote : Char) :
    (fuel : Nat) → (text : List Char) → Cursor → Except SyntaxError (List Char × Cursor)
  | 0, _, c => c.fault .unterminated
  | fuel + 1, text, c => do
    let c ← c.need 4
    if c.atDocumentBoundary then c.fault .documentMark
    else if c.rest.isEmpty then c.fault .unterminated
    else
      let (text, escapedBreak, next) ← c.quotedWord quote (c.size + 1) text
      let next ← next.need 1
      if next.isAt quote then return (text, next.advance)
      else
        let start : Gap := { firstBreak := if escapedBreak then some [] else none }
        let (gap, next) ← next.gap 0 (next.size + 1) start
        next.quoted quote fuel (gap.folded ++ text)

/-! ## Block scalars -/

/-- What becomes of the line breaks at the end of a block scalar. -/
inductive Chomping where
  | strip
  | clip
  | keep
deriving DecidableEq, Repr

/-- The chomping that a character of a block header asks for. -/
def chomping? : Char → Option Chomping
  | '+' => some .keep
  | '-' => some .strip
  | _ => none

/-- The chomping and the indentation that the header of a block scalar asks for, in either order. An
indentation is a digit other than zero; without one it is found from the lines. -/
def Cursor.blockHeader (c : Cursor) : Except SyntaxError (Chomping × Nat × Cursor) := do
  let digit (c : Cursor) : Except SyntaxError (Nat × Cursor) := do
    let c ← c.need 1
    match c.rest with
    | x :: _ =>
      if x = '0' then c.fault .blockHeader
      else if x.isDigit then return (x.toNat - 0x30, c.advance)
      else return (0, c)
    | [] => return (0, c)
  let chomping (c : Cursor) : Except SyntaxError (Chomping × Cursor) := do
    let c ← c.need 1
    match c.rest.head?.bind chomping? with
    | some chomping => return (chomping, c.advance)
    | none => return (.clip, c)
  match ← chomping c with
  | (.clip, next) =>
    let (indent, next) ← digit next
    let (chomp, next) ← if indent = 0 then pure (.clip, next) else chomping next
    return (chomp, indent, next)
  | (chomp, next) =>
    let (indent, next) ← digit next
    return (chomp, indent, next)

/-- Passes the spaces in front of column `indent`, or all if it is zero. -/
def Cursor.indentation (indent : Nat) : (fuel : Nat) → Cursor → Except SyntaxError Cursor
  | 0, c => .ok c
  | fuel + 1, c => do
    let c ← c.need 1
    if (indent = 0 || c.column < indent) && c.isAt ' ' then c.advance.indentation indent fuel
    else return c

/-- Passes indentation and empty lines of a block scalar. An indentation of zero is not known yet;
then `deepest` follows the furthest column that was reached. The line breaks are returned in reverse
order. -/
def Cursor.blockBreaks (indent : Nat) : (fuel : Nat) → (breaks : List Char) → (deepest : Nat) →
    Cursor → Except SyntaxError (List Char × Nat × Cursor)
  | 0, breaks, deepest, c => .ok (breaks, deepest, c)
  | fuel + 1, breaks, deepest, c => do
    let c ← c.indentation indent (c.size + 1)
    let deepest := max deepest c.column
    if (indent = 0 || c.column < indent) && c.isAt '\t' then c.fault .tabIndentation
    else if c.atBreak then
      let (text, next) ← c.lineBreak
      next.blockBreaks indent fuel (text ++ breaks) deepest
    else return (breaks, deepest, c)

/-- What was read of a block scalar, before the tail is settled; all in reverse order. -/
structure BlockLines where
  text : List Char := []
  /-- The line break after the last line of text. -/
  lastBreak : List Char := []
  /-- The line breaks of the empty lines after it. -/
  moreBreaks : List Char := []
  /-- Whether the last line starts with a blank, which keeps the line breaks around it. -/
  blankLine : Bool := false

/-- Reads the lines of a block scalar that are indented to column `indent`. -/
def Cursor.blockLines (literal : Bool) (indent : Nat) :
    (fuel : Nat) → BlockLines → Cursor → Except SyntaxError (BlockLines × Cursor)
  | 0, b, c => .ok (b, c)
  | fuel + 1, b, c => do
    let c ← c.need 1
    if c.column ≠ indent || c.rest.isEmpty then return (b, c)
    else
      let blank := (c.rest.head?.map isBlank).getD false
      let fold := !literal && !b.blankLine && !blank && b.lastBreak.head? = some '\n'
      let joint := if fold then (if b.moreBreaks.isEmpty then [' '] else []) else b.lastBreak
      let (line, next) ← c.takeWhile fun _ => true
      let (lastBreak, next) ← next.lineBreak
      let (moreBreaks, _, next) ← next.blockBreaks indent (next.size + 1) [] 0
      next.blockLines literal indent fuel
        { text := line.reverse ++ (b.moreBreaks ++ (joint ++ b.text)), lastBreak, moreBreaks,
          blankLine := blank }

/-- Reads a block scalar from behind its indicator. `parent` is the indentation of the collection
around it, negative outside of any. -/
def Cursor.block (literal : Bool) (parent : Int) (c : Cursor) :
    Except SyntaxError (List Char × Cursor) := do
  let (chomping, hint, next) ← c.blockHeader
  let next ← next.skipWhile isBlank
  let next ← if next.isAt '#' then next.skipLine else pure next
  if !next.atLineEnd then next.fault .blockHeader
  else
    let (_, next) ← next.lineBreak
    let known := if hint = 0 then 0 else hint + parent.toNat
    let (moreBreaks, deepest, next) ← next.blockBreaks known (next.size + 1) [] 0
    let indent := if known = 0 then max deepest (max (parent + 1).toNat 1) else known
    let (lines, next) ← next.blockLines literal indent (next.size + 1) { moreBreaks }
    let tail := match chomping with
      | .strip => []
      | .clip => lines.lastBreak
      | .keep => lines.moreBreaks ++ lines.lastBreak
    return (tail ++ lines.text, next)

end Interlock.Yaml
