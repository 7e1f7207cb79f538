import Interlock.Number.Integer
import Interlock.Yaml.Node

/-! # Reading values from nodes

A record is read field by field from a mapping, a list item by item from a sequence. A node of the
wrong type does not end the reading: it is noted, and all notes together make the error. A node for
nothing leaves a field as it was, and an item out; only a list it makes empty.
-/

namespace Interlock.Yaml

/-- A node that could not be used. -/
inductive Mismatch where
  | wrongType (line : Nat) (tag : Tag) (text : String) (wanted : String)
  | unknownField (line : Nat) (field record : String)
  | repeatedField (line : Nat) (field record : String)
  | repeatedKey (line : Nat) (key : String) (firstLine : Nat)
deriving DecidableEq, Repr

/-- A text as a note shows it: beyond ten octets only the first seven, and of a character that is
cut there each octet as U+FFFD. -/
def excerpt (text : String) : String :=
  if text.utf8ByteSize ≤ 10 then text
  else
    let fits (size : Nat) (c : Char) : Nat := size + c.utf8Size
    let rec cut (size : Nat) : List Char → List Char
      | [] => []
      | c :: rest =>
        if fits size c ≤ 7 then c :: cut (fits size c) rest
        else List.replicate (7 - size) '\ufffd'
    String.ofList (cut 0 text.toList) ++ "..."

/-- The wording of a note. The text of a scalar is quoted and cut, unless it has the tag of a
collection. -/
def Mismatch.message : Mismatch → String
  | .wrongType line tag text wanted =>
    let shown := if tag.isCollection then text else " `" ++ excerpt text ++ "`"
    "line " ++ toString line ++ ": cannot unmarshal " ++ tag.name ++ shown ++ " into " ++ wanted
  | .unknownField line field record =>
    "line " ++ toString line ++ ": field " ++ field ++ " not found in type " ++ record
  | .repeatedField line field record =>
    "line " ++ toString line ++ ": field " ++ field ++ " already set in type " ++ record
  | .repeatedKey line key firstLine =>
    "line " ++ toString line ++ ": mapping key " ++ Text.quote key ++ " already defined at line " ++
      toString firstLine

/-- The collections that a node without a given type is read as. -/
inductive Collection where
  | list
  /-- A mapping all of whose keys are texts. -/
  | textMap
  | map
deriving DecidableEq, Repr

/-- The name of a type of collections. -/
def Collection.typeName : Collection → String
  | .list => "[]interface \x7b\x7d"
  | .textMap => "map[string]interface \x7b\x7d"
  | .map => "map[interface \x7b\x7d]interface \x7b\x7d"

/-- Why no value was read from a text. -/
inductive ReadError where
  /-- The text holds no document. -/
  | empty
  | malformed (error : SyntaxError)
  | mismatched (notes : List Mismatch)
  /-- A collection is the key of a mapping that something is merged into. Its keys are remembered in
  a set, and a collection cannot be kept there. The reading breaks down. -/
  | breakdown (key : Collection)
deriving DecidableEq, Repr

/-- The wording of a reading error. -/
def ReadError.message : ReadError → String
  | .empty => "EOF"
  | .malformed error => error.message
  | .breakdown key => "runtime error: hash of unhashable type " ++ key.typeName
  | .mismatched notes =>
    "yaml: unmarshal errors:" ++ String.join (notes.map fun n => "\n  " ++ n.message)

/-- The state of a reading. -/
structure Reading where
  /-- The anchored nodes of the document. -/
  anchored : Array Node
  notes : Array Mismatch := #[]
  /-- References that are being followed. -/
  following : List Nat := []
  /-- The keys of the mapping that something is being merged into, and of what was merged into it so
  far; absent outside of a merge. -/
  merged : Option (List Scalar) := none
  /-- Nodes visited, and those of them that were reached through a reference. -/
  visits : Nat := 0
  referredVisits : Nat := 0

/-- A step of a reading. -/
abbrev Reader := StateT Reading (Except ReadError)

namespace Reader

/-- Notes a mismatch. -/
def note (m : Mismatch) : Reader Unit :=
  modify fun r => { r with notes := r.notes.push m }

/-- Ends the reading. -/
def fail {α : Type} (line : Nat) (cause : SyntaxCause) : Reader α :=
  throw (.malformed ⟨line - 1, cause⟩)

/-- Whether too many of a number of visits go through references. Up to 400,000 visits, 99 in 100
may, and their share falls evenly to one in ten at four millions. -/
def isExcessive (visits referred : Nat) : Bool :=
  let span := 3600000
  let share := 99 * span - 89 * min (visits - 400000) span
  100 < referred && 1000 < visits && visits * share < referred * (100 * span)

/-- Counts a visit. A large document that consists mostly of references is refused. -/
def visit (n : Node) : Reader Unit := do
  let r ← get
  let referred := if r.following.isEmpty then r.referredVisits else r.referredVisits + 1
  let visits := r.visits + 1
  if isExcessive visits referred then fail n.line .excessiveAliasing
  set { r with visits, referredVisits := referred }

/-- Visits a node, through its reference if it is one, and reads the node it stands for. -/
def through {α : Type} (n : Node) (read : Node → Reader α) : Reader α := do
  visit n
  match n with
  | .reference line name number target =>
    let r ← get
    if r.following.contains number then fail line (.selfReference name)
    else
      set { r with following := number :: r.following }
      let node := (r.anchored[target]?).getD n
      visit node
      let value ← read node
      modify fun after => { after with following := r.following }
      return value
  | n => read n

/-- Notes that a node is not of the type that is wanted. -/
def mismatch (n : Node) (wanted : String) : Reader Unit :=
  match n with
  | .scalar line tag text => note (.wrongType line tag text wanted)
  | .sequence line tag _ | .mapping line tag _ => note (.wrongType line tag "" wanted)
  | .reference line .. => note (.wrongType line .null "" wanted)

/-- The value of a scalar. -/
def valueOf (line : Nat) (tag : Tag) (text : String) : Reader Scalar :=
  match Scalar.resolve tag text with
  | .ok (_, value) => pure value
  | .error cause => fail line cause

/-- Notes each key of a mapping that repeats an earlier one. Keys are compared by the kind of their
node and by their text. -/
def repeatedKeys : List (Node × Node) → List Mismatch
  | [] => []
  | (key, _) :: rest =>
    let (kind, text) := keyText key
    (rest.filterMap fun (other, _) =>
      if keyText other = (kind, text) then some (.repeatedKey other.line text key.line)
      else none) ++
      repeatedKeys rest
where
  /-- The kind of a node and the text it has by itself. -/
  keyText : Node → Nat × String
    | .scalar _ _ text => (0, text)
    | .sequence .. => (1, "")
    | .mapping .. => (2, "")
    | .reference _ name .. => (3, name)

/-- Reads a scalar by its value; what is no scalar, or has no use for `read`, is noted. Nothing is
read from a node for nothing. -/
def scalar {α : Type} (wanted : String) (read : String → Scalar → Option α) (n : Node) :
    Reader (Option α) :=
  through n fun n => do
    match n with
    | .scalar line tag text =>
      match ← valueOf line tag text with
      | .null => return none
      | value =>
        match read text value with
        | some a => return some a
        | none => mismatch n wanted; return none
    | .mapping _ _ entries =>
      let repeated := repeatedKeys entries
      if repeated.isEmpty then mismatch n wanted else repeated.forM note
      return none
    | n => mismatch n wanted; return none

/-- Reads a text; scalars of all types are texts. -/
def text : Node → Reader (Option RawText) :=
  scalar "string" fun written value =>
    match value with
    | .text s => some s
    | _ => some written

/-- Reads a text for which stray octets make no difference. -/
def shownText (n : Node) : Reader (Option String) := do
  return (← text n).map (·.shown)

/-- The word of a number; a fraction is cut off. Beyond the range there is none, but a
floating-point number below the range gives the least word. -/
def wordOf : Scalar → Option Int64
  | .int n => if n < Int.pow 2 63 then some (Int64.ofInt n) else none
  | .float x =>
    if x ≤ 9223372036854775808.0 then
      some (if x < 9223372036854775808.0 ∧ -9223372036854775808.0 ≤ x then x.toInt64
        else Int64.minValue)
    else none
  | _ => none

/-- Reads a word. -/
def word : Node → Reader (Option Int64) :=
  scalar "int" fun _ => wordOf

/-- Reads a floating-point number. -/
def float : Node → Reader (Option Float) :=
  scalar "float64" fun _ value =>
    match value with
    | .int n => some (Float.ofInt n)
    | .float x => some x
    | _ => none

/-- Reads a truth value, which may be spelled with some further words. -/
def bool : Node → Reader (Option Bool) :=
  scalar "bool" fun _ value =>
    match value with
    | .bool b => some b
    | .text (.unicode s) =>
      if s ∈ ["y", "Y", "yes", "Yes", "YES", "on", "On", "ON"] then some true
      else if s ∈ ["n", "N", "no", "No", "NO", "off", "Off", "OFF"] then some false
      else none
    | _ => none

/-- Reads a list. -/
def list {α : Type} (wanted : String) (item : Node → Reader (Option α)) (n : Node) :
    Reader (Option (List α)) :=
  through n fun n => do
    match n with
    | .sequence _ _ items => return some ((← items.mapM item).filterMap id)
    | .scalar line tag text =>
      match ← valueOf line tag text with
      | .null => return some []
      | _ => mismatch n wanted; return none
    | .mapping _ _ entries =>
      let repeated := repeatedKeys entries
      if repeated.isEmpty then mismatch n wanted else repeated.forM note
      return none
    | n => mismatch n wanted; return none

/-- A field of a record: its name, and how a node changes the record. -/
structure RecordField (ρ : Type) where
  name : String
  read : Node → ρ → Reader ρ

/-- A field that is set to a value of its own. -/
def RecordField.of {ρ α : Type} (name : String) (read : Node → Reader (Option α))
    (set : ρ → α → ρ) : RecordField ρ where
  name
  read n r := do
    match ← read n with
    | some a => return set r a
    | none => return r

/-- Whether a node is the key of a merge. -/
def isMerge : Node → Bool
  | .scalar _ tag text => tag = .merge && text = "<<"
  | _ => false

/-- Whether two values are the same key. No timestamp is the same as another. -/
def sameKey : Scalar → Scalar → Bool
  | .null, .null => true
  | .bool a, .bool b => a == b
  | .int a, .int b => a == b
  | .float a, .float b => a == b
  | .text a, .text b => a == b
  | _, _ => false

/-- Whether a node is a mapping or a reference to one. -/
def isMapping (n : Node) : Reader Bool := do
  match n with
  | .mapping .. => return true
  | .reference _ _ _ target =>
    match (← get).anchored[target]? with
    | some (.mapping ..) => return true
    | _ => return false
  | _ => return false

/-- Reads by `into` what is merged into a mapping: a mapping, or mappings one after the other.
Within another merge the keys are remembered already; otherwise `remember` sees to it. -/
def mergeFrom {ρ : Type} (remember : Reader Unit) (source : Node) (into : Node → ρ → Reader ρ)
    (r : ρ) : Reader ρ := do
  let outermost := (← get).merged.isNone
  if outermost then remember
  let part (r : ρ) (n : Node) : Reader ρ := do
    if ← isMapping n then into n r else fail n.line .mergeSource
  let r ← match source with
    | .sequence _ _ items => items.foldlM part r
    | n => part r n
  if outermost then modify fun reading => { reading with merged := none }
  return r

/-! ## Nodes without a given type -/

/-- What a node without a given type is read as. -/
inductive Untyped where
  | scalar (value : Scalar)
  | collection (type : Collection)

/-- The tag of a key, which a reference has from its node. -/
def keyTag (anchored : Array Node) : Node → Tag
  | .scalar _ tag _ | .sequence _ tag _ | .mapping _ tag _ => tag
  | .reference _ _ _ target =>
    match anchored[target]? with
    | some (.scalar _ tag _) | some (.sequence _ tag _) | some (.mapping _ tag _) => tag
    | _ => .null

/-- The type that a mapping is read as. -/
def mapType (pairs : List (Node × Node)) : Reader Collection := do
  let anchored := (← get).anchored
  let isText (key : Node) : Bool :=
    let tag := keyTag anchored key
    tag = .text || tag = .merge
  return if pairs.all fun (key, _) => isText key then .textMap else .map

mutual

/-- Reads a node as what it looks like. -/
def untyped : (fuel : Nat) → Node → Reader (Option Untyped)
  | 0, n => fail n.line .excessiveAliasing
  | fuel + 1, n => through n fun n => do
    match n with
    | .scalar line tag text => return some (.scalar (← valueOf line tag text))
    | .sequence _ _ items =>
      items.forM fun item => discard (untyped fuel item)
      return some (.collection .list)
    | .mapping _ _ pairs =>
      let type ← mapType pairs
      return if ← untypedPairs fuel type pairs then some (.collection type) else none
    | .reference .. => return none

/-- Reads the entries of a mapping into a mapping of some type. None is read if a key is repeated.
-/
def untypedPairs : (fuel : Nat) → Collection → List (Node × Node) → Reader Bool
  | 0, _, _ => fail 0 .excessiveAliasing
  | fuel + 1, type, pairs => do
    let repeated := repeatedKeys pairs
    if !repeated.isEmpty then
      repeated.forM note
      return false
    else
      let merged := (← get).merged
      modify fun r => { r with merged := none }
      let merged ← pairs.foldlM (fun merged (key, value) =>
        if isMerge key then pure merged else untypedPair fuel type key value merged) merged
      modify fun r => { r with merged }
      match pairs.find? (isMerge ·.1) with
      | none => return true
      | some (_, source) =>
        mergeFrom (rememberKeys fuel pairs) source
          (fun n _ => discard (untypedMapping fuel type n)) ()
        return true

/-- Reads one entry. Within a merge an entry whose key is remembered is left out. -/
def untypedPair :
    (fuel : Nat) → Collection → (key value : Node) → (merged : Option (List Scalar)) →
      Reader (Option (List Scalar))
  | 0, _, key, _, _ => fail key.line .excessiveAliasing
  | fuel + 1, type, key, value, merged => do
    let read ←
      if type = .textMap then do
        pure ((← text key).map fun s => Untyped.scalar (.text s))
      else untyped fuel key
    match read, merged with
    | none, merged => return merged
    | some (.collection type), some _ => throw (.breakdown type)
    | some (.collection _), none => fail key.line .mapKey
    | some (.scalar k), some known =>
      if known.any (sameKey k) then return some known
      else
        discard (untyped fuel value)
        return some (k :: known)
    | some (.scalar _), none =>
      discard (untyped fuel value)
      return none

/-- Reads a mapping into a mapping of some type. -/
def untypedMapping : (fuel : Nat) → Collection → Node → Reader Bool
  | 0, _, n => fail n.line .excessiveAliasing
  | fuel + 1, type, n => through n fun n => do
    match n with
    | .mapping _ _ pairs => untypedPairs fuel type pairs
    | _ => return false

/-- Remembers the keys of a mapping that something is merged into. -/
def rememberKeys : (fuel : Nat) → List (Node × Node) → Reader Unit
  | 0, _ => fail 0 .excessiveAliasing
  | fuel + 1, pairs => do
    modify fun r => { r with merged := some [] }
    pairs.forM fun (key, _) => do
      match ← untyped fuel key with
      | none => pure ()
      | some (.collection type) => throw (.breakdown type)
      | some (.scalar k) => modify fun r => { r with merged := r.merged.map (k :: ·) }

end

/-! ## Records -/

/-- Reads the entries of a mapping into a record. `merged` holds the keys that an enclosing mapping
or an earlier merge has; their fields are not set again. The key of a merge is left for later. -/
def entries {ρ : Type} (wanted : String) (fields : List (RecordField ρ)) :
    List (Node × Node) → (done : List RawText) → (merged : Option (List Scalar)) → ρ →
      Reader (ρ × Option (List Scalar))
  | [], _, merged, r => return (r, merged)
  | (key, value) :: rest, done, merged, r => do
    if isMerge key then entries wanted fields rest done merged r
    else
      match ← text key with
      | none => entries wanted fields rest done merged r
      | some name =>
        if (merged.map (·.any (sameKey (.text name)))).getD false then
          entries wanted fields rest done merged r
        else
          let merged := merged.map (.text name :: ·)
          match fields.find? fun field => name = field.name with
          | none =>
            note (.unknownField key.line name.shown wanted)
            entries wanted fields rest done merged r
          | some field =>
            if done.contains name then
              note (.repeatedField key.line name.shown wanted)
              entries wanted fields rest done merged r
            else
              let r ← field.read value r
              entries wanted fields rest (name :: done) merged r

/-- Reads a record from a mapping. What is merged into a mapping is read after its own fields and
does not replace them. -/
def recordInto {ρ : Type} (wanted : String) (fields : List (RecordField ρ)) :
    (fuel : Nat) → Node → ρ → Reader (Option ρ)
  | 0, n, _ => fail n.line .excessiveAliasing
  | fuel + 1, n, r => through n fun n => do
    match n with
    | .mapping _ _ pairs =>
      let repeated := repeatedKeys pairs
      if !repeated.isEmpty then
        repeated.forM note
        return none
      else
        let merged := (← get).merged
        modify fun reading => { reading with merged := none }
        let (r, merged) ← entries wanted fields pairs [] merged r
        modify fun reading => { reading with merged }
        match pairs.find? (isMerge ·.1) with
        | none => return some r
        | some (_, source) =>
          let into (n : Node) (r : ρ) : Reader ρ := do
            return (← recordInto wanted fields fuel n r).getD r
          return some (← mergeFrom (rememberKeys fuel pairs) source into r)
    | .scalar line tag text =>
      match ← valueOf line tag text with
      | .null => return none
      | _ => mismatch n wanted; return none
    | n => mismatch n wanted; return none

/-- Reads a record, starting from given values of its fields. -/
def record {ρ : Type} (wanted : String) (fields : List (RecordField ρ)) (fuel : Nat) (initial : ρ)
    (n : Node) : Reader (Option ρ) :=
  recordInto wanted fields fuel n initial

end Reader

/-- Reads a value from the first document of a text; where the document has nothing to read,
`initial` remains. -/
def readDocument {α : Type} (text : String) (initial : α)
    (read : (fuel : Nat) → Node → Reader (Option α)) : Except ReadError α :=
  match Document.parse text with
  | .error e => .error (.malformed e)
  | .ok none => .error .empty
  | .ok (some d) =>
    match (read (4 * text.length + 4) d.root).run { anchored := d.anchored, visits := 1 } with
    | .error e => .error e
    | .ok (value, r) =>
      if r.notes.isEmpty then .ok (value.getD initial) else .error (.mismatched r.notes.toList)

/-- A way to keep values as texts. -/
structure Format (α : Type) where
  read : String → Except ReadError α
  write : α → String

end Interlock.Yaml
