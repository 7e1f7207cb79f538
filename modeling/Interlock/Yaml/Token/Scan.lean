import Std.Data.TreeMap
import Interlock.Yaml.Token.Content
import Interlock.Yaml.Token

/-! # From text to tokens

The scanner goes through a text once and keeps a queue of tokens in front of the reader. Whether a
word is the key of a mapping shows only at the colon after it, so a word that may be a key is kept
as a candidate, and the tokens in front of it are put in place once the colon is there. A key ends
on the line it starts on, within 1024 characters.

A token is handed out once two more are in the queue and it is settled that it is no key.
-/

namespace Interlock.Yaml

/-- A token that may turn out to be a key. -/
structure KeyCandidate where
  /-- Unset once it is settled that the token is no key, and where there never was one. -/
  possible : Bool := false
  /-- Set if nothing but a key may stand there. -/
  required : Bool := false
  /-- How many tokens stand in front of it. -/
  number : Nat := 0
  index : Nat := 0
  line : Nat := 0
  column : Nat := 0
deriving Inhabited

/-- Whether a colon at the cursor comes too late to make the token a key. -/
def KeyCandidate.isStale (k : KeyCandidate) (c : Cursor) : Bool :=
  k.line < c.line || k.index + 1024 < c.index

/-- How many collections may be open within each other. -/
def maxDepth : Nat := 10000

/-- A text that is partly turned into tokens. -/
structure Scanner where
  cursor : Cursor
  /-- How many tokens have been handed out. -/
  passed : Nat := 0
  /-- The tokens that have not been handed out. -/
  queue : List Token := []
  /-- The column of the innermost block collection, negative outside of all. -/
  indent : Int := -1
  /-- The columns of the block collections around it, the innermost last. -/
  outerIndents : Array Int := #[]
  /-- Whether a key may start here. -/
  keyAllowed : Bool := true
  /-- How many flow collections are open. -/
  depth : Nat := 0
  /-- The candidate outside of all flow collections and one for each that is open, the innermost
  last. -/
  candidates : Array KeyCandidate := #[{}]
  /-- The depth of the candidate that is asked about before a token is handed out, by the number of
  tokens in front of it. -/
  depthAt : Std.TreeMap Nat Nat := {}

namespace Scanner

/-- Whether the scanner is within a flow collection. -/
def inFlow (s : Scanner) : Bool :=
  s.depth ≠ 0

/-- A fault at the cursor. -/
def fault {α : Type} (s : Scanner) (cause : SyntaxCause) : Except SyntaxError α :=
  s.cursor.fault cause

/-- How many tokens stand in front of the next one. -/
def nextNumber (s : Scanner) : Nat :=
  s.passed + s.queue.length

/-- Adds a token that starts on the line of the cursor. -/
def emit (s : Scanner) (kind : TokenKind) : Scanner :=
  { s with queue := s.queue ++ [⟨kind, s.cursor.line⟩] }

/-- Adds a token of `width` characters and passes it. -/
def emitMark (s : Scanner) (kind : TokenKind) (width : Nat) : Scanner :=
  let s := s.emit kind
  { s with cursor := s.cursor.advanceBy width }

/-- Puts a token behind the first `number` tokens. Where these have been handed out with more, it
goes to the end. -/
def insert (s : Scanner) (number : Nat) (t : Token) : Scanner :=
  if number < s.passed then { s with queue := s.queue ++ [t] }
  else { s with queue := s.queue.insertIdx (number - s.passed) t }

/-! ## Key candidates -/

/-- The candidate of the innermost collection. -/
def candidate (s : Scanner) : KeyCandidate :=
  s.candidates.back?.getD {}

/-- Settles that the innermost candidate is no key, or that it was one. -/
def settle (s : Scanner) : Scanner :=
  let k := s.candidate
  { s with
    candidates := s.candidates.pop.push { k with possible := false }
    depthAt := s.depthAt.erase k.number }

/-- Gives up the innermost candidate. -/
def dropCandidate (s : Scanner) : Except SyntaxError Scanner :=
  if !s.candidate.possible then .ok s
  else if s.candidate.required then s.fault .keyWithoutValue
  else .ok s.settle

/-- Keeps the next token as a candidate, if a key may start here. -/
def saveCandidate (s : Scanner) : Except SyntaxError Scanner :=
  if s.keyAllowed then do
    let s ← s.dropCandidate
    let c := s.cursor
    let k : KeyCandidate :=
      { possible := true
        required := !s.inFlow && s.indent = c.column
        number := s.nextNumber
        index := c.index
        line := c.line
        column := c.column }
    return { s with
      candidates := s.candidates.pop.push k
      depthAt := s.depthAt.insert k.number s.depth }
  else .ok s

/-- Whether the candidate at a depth can still become a key. One that is too late is given up. -/
def live (s : Scanner) (depth : Nat) : Except SyntaxError (Bool × Scanner) :=
  let k := s.candidates[depth]?.getD {}
  if !k.possible then .ok (false, s)
  else if !k.isStale s.cursor then .ok (true, s)
  else if k.required then s.fault .keyWithoutValue
  else
    .ok (false,
      { s with candidates := s.candidates.setIfInBounds depth { k with possible := false } })

/-! ## Indentation -/

/-- Opens a block collection at a column beyond the present indentation, with its token behind the
first `number` tokens. -/
def roll (s : Scanner) (column number : Nat) (kind : TokenKind) (line : Nat) :
    Except SyntaxError Scanner :=
  if s.inFlow || (column : Int) ≤ s.indent then .ok s
  else if maxDepth ≤ s.outerIndents.size then s.fault .depth
  else
    let outerIndents := s.outerIndents.push s.indent
    .ok ({ s with indent := column, outerIndents }.insert number ⟨kind, line⟩)

/-- Closes at most `n` block collections that are indented beyond a column. -/
def unroll (column : Int) : (n : Nat) → Scanner → Scanner
  | 0, s => s
  | n + 1, s =>
    if column < s.indent then
      let s := s.emit .blockEnd
      let indent := s.outerIndents.back?.getD (-1)
      unroll column n { s with indent, outerIndents := s.outerIndents.pop }
    else s

/-- Closes the block collections that are indented beyond a column. Flow collections ignore
indentation. -/
def close (s : Scanner) (column : Int) : Scanner :=
  if s.inFlow then s else unroll column s.outerIndents.size s

/-! ## Blanks and comments -/

/-- How far a comment is looked for. -/
def commentReach : Nat := 512

/-- Passes blanks and line breaks in front of a comment. -/
def toComment : (fuel : Nat) → Cursor → Except SyntaxError Cursor
  | 0, c => .ok c
  | fuel + 1, c => do
    let c ← c.need 1
    if c.isAt '#' then return c
    else if c.atBreak then toComment fuel (← c.lineBreak).2
    else toComment fuel c.advance

/-- Passes a comment together with the lines that are empty or hold only comments after it, as far
as a further comment is within reach. -/
def skipComments : (fuel : Nat) → Cursor → Except SyntaxError Cursor
  | 0, c => .ok c
  | fuel + 1, c => do
    let c ← c.skipLine
    let isGap (x : Char) : Bool := isBlank x || x = '\n' || x = '\r'
    let between := countWhile isGap commentReach c.rest
    let c ← c.need (max 2 (min (between + 1) commentReach))
    if between < commentReach && c.rest[between]? = some '#' then
      skipComments fuel (← toComment (between + 1) c)
    else return c

/-- Passes blanks, comments and line breaks up to the next token. Tabs separate tokens only where no
key may start. In the first column a character is passed unseen where a byte order mark is noted,
whatever character it is. -/
def skipToToken : (fuel : Nat) → Scanner → Except SyntaxError Scanner
  | 0, s => .ok s
  | fuel + 1, s => do
    let c ← s.cursor.need 1
    let c := if c.column = 0 && c.marked then c.advance else c
    let tabs := s.inFlow || !s.keyAllowed
    let c ← c.skipWhile fun x => x = ' ' || (tabs && x = '\t')
    let c ← if c.isAt '#' then skipComments (c.size + 1) c else pure c
    if c.atBreak then
      let (_, c) ← c.lineBreak
      skipToToken fuel { s with cursor := c, keyAllowed := s.keyAllowed || !s.inFlow }
    else return { s with cursor := c }

/-- Passes a comment on the same line after a token. -/
def skipLineComment (s : Scanner) : Except SyntaxError Scanner :=
  if s.cursor.fresh then .ok s
  else do
    let blanks := countWhile isBlank commentReach s.cursor.rest
    let c ← s.cursor.need (min (blanks + 1) commentReach)
    if blanks < commentReach && c.rest[blanks]? = some '#' then
      return { s with cursor := ← c.skipLine }
    else return { s with cursor := c }

/-! ## Tokens -/

/-- A mark that stands outside of all collections. -/
def boundary (s : Scanner) : Except SyntaxError Scanner := do
  let s ← (s.close (-1)).dropCandidate
  return { s with keyAllowed := false }

/-- Opens a flow collection. -/
def openFlow (s : Scanner) (kind : TokenKind) : Except SyntaxError Scanner := do
  let s ← s.saveCandidate
  if maxDepth ≤ s.depth then s.fault .depth
  else
    let candidates := s.candidates.push { number := s.nextNumber }
    return { s with candidates, depth := s.depth + 1, keyAllowed := true }.emitMark kind 1

/-- Closes a flow collection. -/
def closeFlow (s : Scanner) (kind : TokenKind) : Except SyntaxError Scanner := do
  let s ← s.dropCandidate
  let s :=
    if s.inFlow then
      { s with
        depth := s.depth - 1
        depthAt := s.depthAt.erase s.candidate.number
        candidates := s.candidates.pop }
    else s
  return { s with keyAllowed := false }.emitMark kind 1

/-- The mark between entries of a flow collection. -/
def flowEntry (s : Scanner) : Except SyntaxError Scanner := do
  let s ← s.dropCandidate
  return { s with keyAllowed := true }.emitMark .flowEntry 1

/-- The mark of a sequence entry. -/
def entry (s : Scanner) : Except SyntaxError Scanner := do
  if !s.inFlow && !s.keyAllowed then s.fault .entryNotAllowed
  else
    let s ← s.roll s.cursor.column s.nextNumber .blockSequenceStart s.cursor.line
    let s ← s.dropCandidate
    return { s with keyAllowed := true }.emitMark .blockEntry 1

/-- The mark of a key. -/
def explicitKey (s : Scanner) : Except SyntaxError Scanner := do
  if !s.inFlow && !s.keyAllowed then s.fault .keyNotAllowed
  else
    let s ← s.roll s.cursor.column s.nextNumber .blockMappingStart s.cursor.line
    let s ← s.dropCandidate
    return { s with keyAllowed := !s.inFlow }.emitMark .key 1

/-- The mark of a value. The innermost candidate becomes a key by it, if it can. -/
def value (s : Scanner) : Except SyntaxError Scanner := do
  let (isKey, s) ← s.live s.depth
  if isKey then
    let k := s.candidate
    let s := s.insert k.number ⟨.key, k.line⟩
    let s ← s.roll k.column k.number .blockMappingStart k.line
    return { s.settle with keyAllowed := false }.emitMark .value 1
  else if !s.inFlow && !s.keyAllowed then s.fault .valueNotAllowed
  else
    let s ← s.roll s.cursor.column s.nextNumber .blockMappingStart s.cursor.line
    return { s with keyAllowed := !s.inFlow }.emitMark .value 1

/-- A token that may be a key or stand in front of one, read by `read` from the cursor on. -/
def word (s : Scanner) (read : Cursor → Except SyntaxError (TokenKind × Cursor)) :
    Except SyntaxError Scanner := do
  let s ← s.saveCandidate
  let (kind, next) ← read s.cursor
  let s := s.emit kind
  return { s with keyAllowed := false, cursor := next }

/-- A plain scalar. After a line break behind it a key may start. -/
def plainScalar (s : Scanner) : Except SyntaxError Scanner := do
  let s ← s.saveCandidate
  let c := s.cursor
  let (text, broken, next) ← c.plain s.inFlow (s.indent + 1) (c.size + 1) [] {}
  let s := s.emit (.scalar (String.ofList text.reverse) true)
  return { s with keyAllowed := broken, cursor := next }

/-- A block scalar. -/
def blockScalar (s : Scanner) (literal : Bool) : Except SyntaxError Scanner := do
  let s ← s.dropCandidate
  let (text, next) ← s.cursor.advance.block literal s.indent
  let s := s.emit (.scalar (String.ofList text.reverse) false)
  return { s with keyAllowed := true, cursor := next }

/-- A scalar between quotes. -/
def quotedScalar (quote : Char) (c : Cursor) : Except SyntaxError (TokenKind × Cursor) := do
  let (text, next) ← c.advance.quoted quote (c.size + 1) []
  return (.scalar (String.ofList text.reverse) false, next)

/-- Whether a plain scalar may start with a text, within a flow collection or outside. -/
def plainStarts (inFlow : Bool) : List Char → Bool
  | [] => false
  | '-' :: rest => !(rest.head?.map isBlank).getD false
  | '?' :: rest => !inFlow && !wordEnds rest
  | ':' :: rest => !inFlow && !wordEnds rest
  | c :: _ => !isBlank c && !isBreak c && !isFlowIndicator c && !"#&*!|>'\"%@`".toList.contains c

/-- The token at the cursor, by its first characters. -/
def token (s : Scanner) : Except SyntaxError Scanner :=
  match s.cursor.rest with
  | [] => s.fault .tokenStart
  | x :: rest =>
    if x = '[' then s.openFlow .flowSequenceStart
    else if x = '{' then s.openFlow .flowMappingStart
    else if x = ']' then s.closeFlow .flowSequenceEnd
    else if x = '}' then s.closeFlow .flowMappingEnd
    else if x = ',' then s.flowEntry
    else if x = '-' && wordEnds rest then s.entry
    else if x = '?' && (s.inFlow || wordEnds rest) then s.explicitKey
    else if x = ':' && (s.inFlow || wordEnds rest) then s.value
    else if x = '*' then s.word fun c => do
      let (name, next) ← c.advance.anchorName
      return (.reference name, next)
    else if x = '&' then s.word fun c => do
      let (name, next) ← c.advance.anchorName
      return (.anchor name, next)
    else if x = '!' then s.word Cursor.tag
    else if x = '|' && !s.inFlow then s.blockScalar true
    else if x = '>' && !s.inFlow then s.blockScalar false
    else if x = '\'' then s.word (quotedScalar '\'')
    else if x = '"' then s.word (quotedScalar '"')
    else if plainStarts s.inFlow (x :: rest) then s.plainScalar
    else s.fault .tokenStart

/-- The end of the text, which also ends its line. -/
def streamEnd (s : Scanner) : Except SyntaxError Scanner := do
  let c := s.cursor
  let c := if c.column = 0 then c else { c with column := 0, line := c.line + 1 }
  let s ← { s with cursor := c }.boundary
  return s.emit .streamEnd

/-- Adds the next token, with the tokens that close collections in front of it. Behind the end of
the text there are only further ends. -/
def step (s : Scanner) : Except SyntaxError Scanner := do
  let s ← s.skipToToken (s.cursor.size + 1)
  let s := s.close s.cursor.column
  let s := { s with cursor := ← s.cursor.need 4 }
  if s.cursor.rest.isEmpty then s.streamEnd
  else if s.cursor.column = 0 && s.cursor.isAt '%' then
    let s ← s.boundary
    let (kind, next) ← s.cursor.directive
    let s := s.emit kind
    return { s with cursor := next }
  else if s.cursor.atDocumentMark '-' then
    return (← s.boundary).emitMark .documentStart 3
  else if s.cursor.atDocumentMark '.' then
    return (← s.boundary).emitMark .documentEnd 3
  else
    let s ← s.token
    if s.queue.getLast?.map (·.kind) = some .blockEntry then return s else s.skipLineComment

/-- Whether the first token of the queue can be handed out. -/
def settled (s : Scanner) : Except SyntaxError (Bool × Scanner) :=
  match s.queue with
  | _ :: _ :: _ :: _ =>
    match s.depthAt[s.passed]? with
    | none => .ok (true, s)
    | some depth => do
      let (isLive, s) ← s.live depth
      return (!isLive, s)
  | _ => .ok (false, s)

/-- Adds tokens until the first one of the queue can be handed out. -/
def fill : (fuel : Nat) → Scanner → Except SyntaxError Scanner
  | 0, s => .ok s
  | fuel + 1, s => do
    let (ready, s) ← s.settled
    if ready then return s else fill fuel (← s.step)

/-- Hands out the first token of the queue. -/
def handOut (s : Scanner) : Scanner :=
  { s with passed := s.passed + 1, queue := s.queue.tail }

/-- The scanner at the start of a text. -/
def ofText (text : String) : Scanner :=
  { cursor := .ofText text }

end Scanner

end Interlock.Yaml
