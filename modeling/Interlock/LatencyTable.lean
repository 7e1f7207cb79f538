import Interlock.Number.Integer

/-! # Latency tables

A table gives the wait states that a hazard needs for each latency class: for each pass count of a
matrix instruction, or for class 0 of the single-issue instructions.
-/

namespace Interlock

/-- Wait states by latency class. The entries ascend strictly by class. -/
structure LatencyTable where
  entries : List (Int64 × Int64) := []
deriving DecidableEq, Repr

/-- An entry with a negative number of wait states, which no table may hold. -/
structure NegativeEntry where
  latencyClass : Int64
  nops : Int64
deriving DecidableEq, Repr

/-- The wording of a negative entry. -/
def NegativeEntry.message (e : NegativeEntry) : String :=
  "latency: negative wait states " ++ Number.text e.nops ++ " for class " ++
    Number.text e.latencyClass

namespace LatencyTable

/-- Puts an entry at its place in ascending entries; an entry of the same class is replaced. -/
def insertEntry (latencyClass nops : Int64) : List (Int64 × Int64) → List (Int64 × Int64)
  | [] => [(latencyClass, nops)]
  | (c, n) :: rest =>
    if latencyClass < c then (latencyClass, nops) :: (c, n) :: rest
    else if latencyClass = c then (latencyClass, nops) :: rest
    else (c, n) :: insertEntry latencyClass nops rest

/-- The table of some entries, of which a later one replaces an earlier one of its class. -/
def ofEntries (entries : List (Int64 × Int64)) : LatencyTable :=
  ⟨entries.foldl (fun table (c, n) => insertEntry c n table) []⟩

/-- The table of one entry, for single-issue instructions. -/
def uniform (nops : Int64) : LatencyTable :=
  ofEntries [(0, nops)]

/-- The table that asks `passes + offset` wait states of each of the pass counts. -/
def linear (offset : Int64) (passes : List Int64) : LatencyTable :=
  ofEntries (passes.map fun p => (p, p + offset))

/-- The table itself if no entry is negative, and otherwise the negative entry of the lowest
class. -/
def checked (t : LatencyTable) : Except NegativeEntry LatencyTable :=
  match t.entries.find? (·.2 < 0) with
  | some (c, n) => .error ⟨c, n⟩
  | none => .ok t

/-- The wait states of a latency class. -/
def lookup? (t : LatencyTable) (latencyClass : Int64) : Option Int64 :=
  t.entries.lookup latencyClass

/-- The largest number of wait states in the table, zero for the empty one. -/
def max (t : LatencyTable) : Int64 :=
  t.entries.foldl (fun m (_, n) => if m < n then n else m) 0

/-- The number of classes. -/
def size (t : LatencyTable) : Nat :=
  t.entries.length

/-- The classes in ascending order. -/
def classes (t : LatencyTable) : List Int64 :=
  t.entries.map (·.1)

/-- Whether every entry is matched by one of the same class in `bound` that is no smaller. -/
def boundedBy (t bound : LatencyTable) : Bool :=
  t.entries.all fun (c, n) =>
    match bound.lookup? c with
    | some limit => n ≤ limit
    | none => false

/-- One entry: class 0 by its wait states alone, the others after their pass count. -/
def entryText : Int64 × Int64 → String
  | (c, n) => if c = 0 then Number.text n else Number.text c ++ "p:" ++ Number.text n

/-- The table as text, such as `2p:4 8p:10`. -/
def text (t : LatencyTable) : String :=
  " ".intercalate (t.entries.map entryText)

end LatencyTable

end Interlock
