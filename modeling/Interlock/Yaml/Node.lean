import Interlock.Yaml.Scalar
import Interlock.Yaml.Token.Scan

/-! # Nodes

A document is a tree of scalars, sequences and mappings. A node may have an anchor, and a reference
to the anchor stands for the node. Since a node may contain a reference to itself, references name
the anchored node by its number and the document keeps the anchored nodes beside the tree.
-/

namespace Interlock.Yaml

/-- A node and the line it starts on, counted from one. -/
inductive Node where
  | scalar (line : Nat) (tag : Tag) (text : String)
  | sequence (line : Nat) (tag : Tag) (items : List Node)
  | mapping (line : Nat) (tag : Tag) (entries : List (Node × Node))
  /-- The `number`-th reference of the document, to the anchored node of number `target`. -/
  | reference (line : Nat) (name : String) (number target : Nat)
deriving Inhabited

/-- The line a node starts on. -/
def Node.line : Node → Nat
  | .scalar line .. | .sequence line .. | .mapping line .. | .reference line .. => line

/-- A node that stands where nothing is written. -/
def Node.absent (t : Token) : Node :=
  .scalar (t.line + 1) .null ""

/-- The first document of a text. -/
structure Document where
  root : Node
  /-- The anchored nodes, by number. -/
  anchored : Array Node
deriving Inhabited

/-- The state of putting a document together. -/
structure Assembly where
  scanner : Scanner
  /-- Whether the first token of the queue has been looked at. -/
  ready : Bool := false
  /-- The texts that tag handles stand for. -/
  handles : List (String × String) := []
  /-- The number of each anchor; the latest of a name counts. -/
  anchors : List (String × Nat) := []
  anchored : Array Node := #[]
  references : Nat := 0

/-- A step of putting a document together. -/
abbrev Assembler := StateT Assembly (Except SyntaxError)

namespace Assembler

/-- Ends the reading. -/
def fail {α : Type} (line : Nat) (cause : SyntaxCause) : Assembler α :=
  throw ⟨line, cause⟩

/-- The next token. -/
def peek : Assembler Token := do
  let a ← get
  let scanner ←
    if a.ready then pure a.scanner else a.scanner.fill (2 * a.scanner.cursor.size + 8)
  set { a with scanner, ready := true }
  match scanner.queue with
  | t :: _ => return t
  | [] => fail scanner.cursor.line .unterminated

/-- Passes a token. -/
def skip : Assembler Unit :=
  modify fun a => { a with scanner := a.scanner.handOut, ready := false }

/-- Passes a token and returns the next. -/
def next : Assembler Token := do
  skip
  peek

/-- Gives a number to an anchor. The node follows once it is read. -/
def openAnchor (name : Option String) : Assembler (Option Nat) := do
  match name with
  | none => return none
  | some name =>
    let a ← get
    let number := a.anchored.size
    set { a with anchors := (name, number) :: a.anchors, anchored := a.anchored.push default }
    return some number

/-- Keeps the node of an anchor. -/
def closeAnchor (number : Option Nat) (node : Node) : Assembler Unit :=
  match number with
  | none => pure ()
  | some number =>
    modify fun a => { a with anchored := a.anchored.setIfInBounds number node }

/-- The anchor and the tag in front of a node. -/
structure Properties where
  anchor : Option String := none
  tag : Option (String × String) := none

/-- Passes one anchor and one tag at most, in either order. -/
def properties : Assembler Properties := do
  match (← peek).kind with
  | .anchor name =>
    match (← next).kind with
    | .tag handle suffix => skip; return { anchor := some name, tag := some (handle, suffix) }
    | _ => return { anchor := some name }
  | .tag handle suffix =>
    match (← next).kind with
    | .anchor name => skip; return { anchor := some name, tag := some (handle, suffix) }
    | _ => return { tag := some (handle, suffix) }
  | _ => return {}

/-- The tag of a node; the lone exclamation mark and a missing tag leave it to `default`. -/
def resolveTag (line : Nat) (written : Option (String × String)) (default : Tag) :
    Assembler Tag := do
  match written with
  | none => return default
  | some ("", suffix) => return if suffix = "!" then default else .ofName suffix
  | some (handle, suffix) =>
    match (← get).handles.lookup handle with
    | some text => return if text ++ suffix = "!" then default else .ofName (text ++ suffix)
    | none => fail line .tagHandle

/-- The tag of a scalar without one. A plain `<<` is the key of a merge. -/
def scalarTag (text : String) (plain : Bool) : Tag :=
  if plain then (if text = "<<" then .merge else Scalar.plainTag text) else .text

mutual

/-- Reads a node. Block collections are accepted where `block` is set, and a sequence that is not
indented beyond its key where `indentless` is set. -/
def node (block indentless : Bool) : (fuel : Nat) → Assembler Node
  | 0 => fail 0 .depth
  | fuel + 1 => do
    let start ← peek
    let line := start.line + 1
    match start.kind with
    | .reference name =>
      let a ← get
      match a.anchors.lookup name with
      | none => fail start.line (.unknownAnchor name)
      | some target =>
        set { a with references := a.references + 1 }
        skip
        return .reference line name (a.references + 1) target
    | _ =>
      let written ← properties
      let token ← peek
      let number ← openAnchor written.anchor
      let node ← match token.kind with
        | .scalar text plain => do
          let tag ← resolveTag start.line written.tag (scalarTag text plain)
          skip
          pure (.scalar line tag text)
        | .flowSequenceStart => do
          let tag ← resolveTag start.line written.tag .sequence
          skip
          pure (.sequence line tag (← flowSequence fuel true []))
        | .flowMappingStart => do
          let tag ← resolveTag start.line written.tag .mapping
          skip
          pure (.mapping line tag (← flowMapping fuel true []))
        | kind => do
          if kind = .blockEntry ∧ indentless then
            let tag ← resolveTag start.line written.tag .sequence
            pure (.sequence line tag (← indentlessSequence fuel []))
          else if kind = .blockSequenceStart ∧ block then
            let tag ← resolveTag start.line written.tag .sequence
            skip
            pure (.sequence line tag (← blockSequence fuel []))
          else if kind = .blockMappingStart ∧ block then
            let tag ← resolveTag start.line written.tag .mapping
            skip
            pure (.mapping line tag (← blockMapping fuel []))
          else if written.anchor.isSome ∨ written.tag.isSome then
            let tag ← resolveTag start.line written.tag (scalarTag "" true)
            pure (.scalar line tag "")
          else fail token.line .nodeContent
      closeAnchor number node
      return node

/-- Reads the node behind a mark, which is absent in front of certain tokens. -/
def nodeUnless (absent : TokenKind → Bool) (mark : Token) (block indentless : Bool) :
    (fuel : Nat) → Assembler Node
  | 0 => fail 0 .depth
  | fuel + 1 => do
    if absent (← peek).kind then return .absent mark else node block indentless fuel

/-- Reads the entries of a block sequence, up to its end, behind the entries read so far, which are
in reverse order. -/
def blockSequence : (fuel : Nat) → (items : List Node) → Assembler (List Node)
  | 0, _ => fail 0 .depth
  | fuel + 1, items => do
    let t ← peek
    match t.kind with
    | .blockEntry =>
      let absent (k : TokenKind) : Bool := k = .blockEntry || k = .blockEnd
      skip
      let item ← nodeUnless absent t true false fuel
      blockSequence fuel (item :: items)
    | .blockEnd => skip; return items.reverse
    | _ => fail t.line .entryExpected

/-- Reads the entries of a sequence without an end of its own. -/
def indentlessSequence : (fuel : Nat) → (items : List Node) → Assembler (List Node)
  | 0, _ => fail 0 .depth
  | fuel + 1, items => do
    let t ← peek
    match t.kind with
    | .blockEntry =>
      let absent (k : TokenKind) : Bool :=
        k = .blockEntry || k = .key || k = .value || k = .blockEnd
      skip
      let item ← nodeUnless absent t true false fuel
      indentlessSequence fuel (item :: items)
    | _ => return items.reverse

/-- Reads the entries of a block mapping, up to its end. -/
def blockMapping :
    (fuel : Nat) → (entries : List (Node × Node)) → Assembler (List (Node × Node))
  | 0, _ => fail 0 .depth
  | fuel + 1, entries => do
    let t ← peek
    match t.kind with
    | .key =>
      let absent (k : TokenKind) : Bool := k = .key || k = .value || k = .blockEnd
      skip
      let key ← nodeUnless absent t true true fuel
      let t ← peek
      if t.kind = .value then
        skip
        let value ← nodeUnless absent t true true fuel
        blockMapping fuel ((key, value) :: entries)
      else blockMapping fuel ((key, .absent t) :: entries)
    | .blockEnd => skip; return entries.reverse
    | _ => fail t.line .keyExpected

/-- Reads the entries of a flow sequence, up to its end. An entry may be a single pair. -/
def flowSequence : (fuel : Nat) → (first : Bool) → (items : List Node) → Assembler (List Node)
  | 0, _, _ => fail 0 .depth
  | fuel + 1, first, items => do
    let t ← peek
    if t.kind = .flowSequenceEnd then
      skip
      return items.reverse
    else if !first && t.kind ≠ .flowEntry then fail t.line .flowSequenceExpected
    else
      let t ← if first then pure t else next
      match t.kind with
      | .flowSequenceEnd => skip; return items.reverse
      | .key =>
        skip
        let entry ← flowPair fuel
        flowSequence fuel false (.mapping (t.line + 1) .mapping [entry] :: items)
      | _ =>
        let item ← node false false fuel
        flowSequence fuel false (item :: items)

/-- Reads a pair in a flow sequence, from behind the mark of its key. Where the key is absent, the
token in its place is passed over. -/
def flowPair : (fuel : Nat) → Assembler (Node × Node)
  | 0 => fail 0 .depth
  | fuel + 1 => do
    let absent (k : TokenKind) : Bool := k = .flowEntry || k = .flowSequenceEnd
    let t ← peek
    let key ←
      if t.kind = .value || absent t.kind then do
        skip
        pure (.absent t)
      else node false false fuel
    let t ← peek
    if t.kind = .value then
      let t ← next
      return (key, ← nodeUnless absent t false false fuel)
    else return (key, .absent t)

/-- Reads the entries of a flow mapping, up to its end. -/
def flowMapping :
    (fuel : Nat) → (first : Bool) → (entries : List (Node × Node)) → Assembler (List (Node × Node))
  | 0, _, _ => fail 0 .depth
  | fuel + 1, first, entries => do
    let absent (k : TokenKind) : Bool := k = .flowEntry || k = .flowMappingEnd
    let t ← peek
    if t.kind = .flowMappingEnd then
      skip
      return entries.reverse
    else if !first && t.kind ≠ .flowEntry then fail t.line .flowMappingExpected
    else
      let t ← if first then pure t else next
      match t.kind with
      | .flowMappingEnd => skip; return entries.reverse
      | .key =>
        let t ← next
        let key ← nodeUnless (fun k => k = .value || absent k) t false false fuel
        let t ← peek
        if t.kind = .value then
          let t ← next
          let value ← nodeUnless absent t false false fuel
          flowMapping fuel false ((key, value) :: entries)
        else flowMapping fuel false ((key, .absent t) :: entries)
      | _ =>
        let key ← node false false fuel
        let t ← peek
        flowMapping fuel false ((key, .absent t) :: entries)

end

/-- Passes the directives in front of a document. Only version 1.1 is known, a version is given
once, and a handle is bound once. -/
def directives : (fuel : Nat) → (version : Bool) → Assembler Unit
  | 0, _ => fail 0 .depth
  | fuel + 1, version => do
    let t ← peek
    match t.kind with
    | .version major minor =>
      if version then fail t.line .repeatedDirective
      else if major ≠ 1 ∨ minor ≠ 1 then fail t.line .version
      else
        skip
        directives fuel true
    | .tagPrefix handle text =>
      if ((← get).handles.lookup handle).isSome then fail t.line .repeatedDirective
      else
        modify fun a => { a with handles := (handle, text) :: a.handles }
        skip
        directives fuel version
    | _ => return ()

/-- Whether a token belongs to the frame of a document and not to its content. -/
def isFrame : TokenKind → Bool
  | .version .. | .tagPrefix .. | .documentStart | .documentEnd | .streamEnd => true
  | _ => false

/-- The handles that need no directive. -/
def defaultHandles : List (String × String) :=
  [("!", "!"), ("!!", Tag.fullStart)]

/-- Reads the root of the first document. -/
def root (fuel : Nat) (start : Token) : Assembler Node := do
  if isFrame start.kind && start.kind ≠ .documentEnd then
    directives fuel false
    let t ← peek
    if t.kind ≠ .documentStart then fail t.line .documentStart
    else
      let t ← next
      modify fun a => { a with handles := a.handles ++ defaultHandles }
      if isFrame t.kind then return .absent t else node true false fuel
  else
    modify fun a => { a with handles := defaultHandles }
    node true false fuel

/-- Reads the first document; a text without tokens holds none. Whatever token follows the root ends
the document. -/
def document (fuel : Nat) : Assembler (Option Document) := do
  let start ← peek
  if start.kind = .streamEnd then return none
  else
    let root ← root fuel start
    let _ ← peek
    return some ⟨root, (← get).anchored⟩

end Assembler

/-- Reads the first document of a text. -/
def Document.parse (text : String) : Except SyntaxError (Option Document) :=
  let scanner := Scanner.ofText text
  (Assembler.document (16 * (scanner.cursor.size + 4))).run' { scanner }

end Interlock.Yaml
