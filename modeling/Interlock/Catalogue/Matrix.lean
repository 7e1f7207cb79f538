import Interlock.Rule

/-! # Hazards of matrix instructions

Matrix instructions read their third source late and write their result late. The read rules keep
others from overwriting the source too early, the write rules keep others from using the result too
early. All windows persist, because one window may meet conflicts of different strength.
-/

namespace Interlock.Catalogue

/-- The latency of a class in a conflict table; a class without an entry is a flaw of the rule. -/
def latency (table : LatencyTable) (latencyClass : Int64) : Except Fault Int64 :=
  match table.lookup? latencyClass with
  | some nops => .ok nops
  | none => .error (.flaw (.missingClass latencyClass table))

/-- The largest of several requirements. -/
def largest? : List Int64 → Option Int64
  | [] => none
  | n :: rest =>
    match largest? rest with
    | some m => some (if n < m then m else n)
    | none => some n

/-- A requirement by latency class for the instructions that match. -/
def whenever (table : LatencyTable) (conflict : Window → Instruction → Bool)
    (w : Window) (inst : Instruction) : Verdict :=
  if conflict w inst then some <$> latency table w.latencyClass else .ok none

def isMatrix (inst : Instruction) : Bool := inst.op = .mfma

/-- The third source of a matrix instruction, the one it adds to. -/
def addend (inst : Instruction) : List Register := (inst.operand? 2).toList

/-- Families of the third compute generation. -/
def isThirdGeneration (target : Target) : Bool :=
  target.family = .cdna3 || target.family = .cdna35

def readAddend908Nops : LatencyTable := .ofEntries [(2, 0), (8, 5), (16, 13)]

def readAddend90aNops : LatencyTable := .ofEntries [(2, 1), (8, 7), (16, 15)]

def readAddend94xNops : LatencyTable := .ofEntries [(2, 1), (4, 3), (8, 7), (16, 15)]

/-- A vector instruction overwrites a register that the matrix instruction still reads. -/
def valuOverwrites (w : Window) (inst : Instruction) : Bool :=
  inst.op.isValu && inst.writesAny w.regs

/-- Addend read, then accumulator write, on gfx908. -/
def readAddend908 : Rule where
  name := "XDLReadSrcC908"
  comment := "XDL Read Hazard"
  required := some (·.family = .cdna1)
  access := .read
  trigger := some isMatrix
  selection := some addend
  sizes := readAddend908Nops
  hazard := some (whenever readAddend908Nops fun w inst =>
    inst.op = .accWrite && inst.writesAny w.regs)

/-- Addend read, then vector write, on gfx90a. -/
def readAddend90a : Rule where
  name := "XDLReadSrcC90a"
  comment := "XDL Read Hazard"
  required := some (·.family = .cdna2)
  access := .read
  trigger := some isMatrix
  selection := some addend
  sizes := readAddend90aNops
  hazard := some (whenever readAddend90aNops valuOverwrites)

/-- Addend read, then vector write, on the third generation. -/
def readAddend94x : Rule where
  name := "XDLReadSrcC94x"
  comment := "XDL Read Hazard"
  required := some isThirdGeneration
  access := .read
  trigger := some isMatrix
  selection := some addend
  sizes := readAddend94xNops
  hazard := some (whenever readAddend94xNops valuOverwrites)

/-- What a dependent matrix instruction needs from the window of its producer: by its addend, which
may be the very same range or only overlap it, and by its two factors. -/
def matrixNeeds (w : Window) (inst : Instruction) (same overlapped factor : Int64) : List Int64 :=
  let addendNeeds := (inst.operand? 2).toList.filterMap fun c =>
    if w.overlaps c then some (if w.covers c then same else overlapped) else none
  let factorNeeds := ((inst.operand? 0).toList ++ (inst.operand? 1).toList).filterMap fun r =>
    if w.overlaps r then some factor else none
  addendNeeds ++ factorNeeds

def write908AccRead : LatencyTable := .ofEntries [(2, 4), (8, 10), (16, 18)]

def write908AccWrite : LatencyTable := .ofEntries [(2, 1), (8, 7), (16, 15)]

/-- On gfx908 a dependent matrix instruction needs the same separation for every pass count. -/
def write908Hazard (w : Window) (inst : Instruction) : Verdict :=
  match inst.op with
  | .mfma => .ok (largest? (matrixNeeds w inst 0 2 4))
  | .accRead => whenever write908AccRead (fun w inst => inst.readsAny w.regs) w inst
  | .accWrite => whenever write908AccWrite (fun w inst => inst.writesAny w.regs) w inst
  | _ => .ok none

/-- Matrix result used too early on gfx908. -/
def write908 : Rule where
  name := "XDLWrite908"
  comment := "XDL Write Hazard"
  required := some (·.family = .cdna1)
  access := .write
  trigger := some isMatrix
  sizes := .ofEntries [(2, 4), (8, 10), (16, 18)]
  hazard := some write908Hazard

/-- Separations after a matrix write from gfx90a on, where they all grow with the pass count of the
producer. -/
structure MatrixLatencies where
  /-- Addend that overlaps the result without being the same range. -/
  overlapped : LatencyTable
  /-- One of the two factors. -/
  factor : LatencyTable
  /-- A read by any other instruction, or a vector write. -/
  other : LatencyTable

/-- The judgement of a write rule from gfx90a on. For a matrix instruction both tables are consulted
before its operands are. -/
def MatrixLatencies.hazard (t : MatrixLatencies) (w : Window) (inst : Instruction) : Verdict :=
  if inst.op = .mfma then do
    let overlapped ← latency t.overlapped w.latencyClass
    let factor ← latency t.factor w.latencyClass
    return largest? (matrixNeeds w inst 0 overlapped factor)
  else
    whenever t.other (fun w inst => inst.readsAny w.regs || valuOverwrites w inst) w inst

def write90aLatencies : MatrixLatencies where
  overlapped := .ofEntries [(2, 2), (8, 8), (16, 16)]
  factor := .ofEntries [(2, 5), (8, 11), (16, 19)]
  other := .ofEntries [(2, 5), (8, 11), (16, 19)]

/-- Matrix result used too early on gfx90a. -/
def write90a : Rule where
  name := "XDLWrite90a"
  comment := "XDL Write Hazard"
  required := some (·.family = .cdna2)
  access := .write
  trigger := some isMatrix
  sizes := .ofEntries [(2, 5), (8, 11), (16, 19)]
  hazard := some write90aLatencies.hazard

/-- The pass counts of the third generation. -/
def passCounts : List Int64 := [2, 4, 8, 16]

def write94xLatencies : MatrixLatencies where
  overlapped := .linear 1 passCounts
  factor := .linear 3 passCounts
  other := .linear 3 passCounts

/-- Matrix result used too early on gfx940, gfx941 and gfx942. -/
def write94x : Rule where
  name := "XDLWrite94x"
  comment := "XDL Write Hazard"
  required := some (·.family = .cdna3)
  access := .write
  trigger := some isMatrix
  sizes := .linear 3 passCounts
  hazard := some write94xLatencies.hazard

def write950Latencies : MatrixLatencies where
  overlapped := .linear 2 passCounts
  factor := .linear 4 passCounts
  other := .linear 4 passCounts

/-- Matrix result used too early on gfx950: one wait state more than on gfx942 wherever that one
needs any. -/
def write950 : Rule where
  name := "XDLWrite950"
  comment := "XDL Write Hazard"
  required := some (·.family = .cdna35)
  access := .write
  trigger := some isMatrix
  sizes := .linear 4 passCounts
  hazard := some write950Latencies.hazard

end Interlock.Catalogue
