import Interlock.Opcode
import Interlock.Register
import Interlock.Text.Quoted

/-! # Instructions and kernels

An instruction as the scheduler sees it: an opcode class, the registers it writes and reads, and the
pass count that latency tables are indexed by. The module also holds the constructors, the register
queries, the check that an instruction carries what its class needs, and the assembly line. A
kernel is a stream of instructions with a name.
-/

namespace Interlock

/-- One lowered instruction. -/
structure Instruction where
  op : Opcode
  /-- Mnemonic. -/
  name : RawText
  /-- Registers written. -/
  dst : List Register := []
  /-- Registers read, in the order of the operand slots. -/
  src : List Register := []
  /-- Latency class: the pass count of a matrix instruction, zero for single-issue instructions. -/
  passes : Int64 := 0
  /-- Wait states of an explicit no-op; up to one they count as one. -/
  count : Int64 := 0
  /-- Comment in the generated assembly. -/
  comment : RawText := ""
  /-- Set on the no-ops that a scheduler inserts. -/
  padding : Bool := false
deriving DecidableEq, Repr

/-- What is wrong with an instruction. The mnemonic stands first in every wording. -/
inductive InstructionDefect where
  | destination (name : String) (defect : RegisterDefect)
  | source (name : String) (defect : RegisterDefect)
  | unknownClass (name : String)
  | matrixOperands (name : String) (destinations sources : Nat)
  | matrixPasses (name : String)
  | accReadOperands (name : String)
  | accWriteOperands (name : String)
  | nopOperands (name : String)
  | negativeCount (name : String) (count : Int64)
  | negativePasses (name : String) (passes : Int64)
deriving DecidableEq, Repr

/-- The wording of an instruction defect. -/
def InstructionDefect.message : InstructionDefect → String
  | .destination name d => name ++ ": invalid destination: " ++ d.message
  | .source name d => name ++ ": invalid source: " ++ d.message
  | .unknownClass name => name ++ ": unknown opcode class"
  | .matrixOperands name destinations sources =>
    name ++ ": MFMA needs 1 destination and 3 sources, got " ++ toString destinations ++ " and " ++
      toString sources
  | .matrixPasses name => name ++ ": MFMA without pass count"
  | .accReadOperands name => name ++ ": expected vN, aN operands"
  | .accWriteOperands name => name ++ ": expected aN, vN operands"
  | .nopOperands name => name ++ ": no-op with register operands"
  | .negativeCount name count => name ++ ": negative wait-state count " ++ Number.text count
  | .negativePasses name passes => name ++ ": negative pass count " ++ Number.text passes

namespace Instruction

/-- An instruction of a class; without a name it gets the class's default mnemonic. -/
def new (op : Opcode) (name : RawText) (dst src : List Register) : Instruction :=
  { op, name := if name = "" then op.defaultMnemonic else name, dst, src }

/-- The matrix instruction `dst = a * b + c`. -/
def mfma (name : RawText) (passes : Int64) (dst a b c : Register) : Instruction :=
  { new .mfma name [dst] [a, b, c] with passes }

/-- A vector arithmetic instruction. -/
def valu (name : RawText) (dst : Register) (src : List Register) : Instruction :=
  new .valu name [dst] src

/-- Moves an accumulation register to a vector register. -/
def accRead (dst src : Register) : Instruction :=
  new .accRead "" [dst] [src]

/-- Moves a vector register to an accumulation register. -/
def accWrite (dst src : Register) : Instruction :=
  new .accWrite "" [dst] [src]

/-- An explicit no-op of `count` wait states. -/
def nop (count : Int64) : Instruction :=
  { new .nop "" [] [] with count }

/-- The single wait state that a scheduler inserts. -/
def pad (comment : RawText) : Instruction :=
  { nop 1 with comment, padding := true }

/-- Issue slots that the instruction occupies. -/
def waitStates (inst : Instruction) : Int64 :=
  if inst.op = .nop ∧ 1 < inst.count then inst.count else 1

/-- Whether a source shares a register with `r`. -/
def reads (inst : Instruction) (r : Register) : Bool :=
  inst.src.any (·.overlaps r)

/-- Whether a destination shares a register with `r`. -/
def writes (inst : Instruction) (r : Register) : Bool :=
  inst.dst.any (·.overlaps r)

/-- Whether a source shares a register with one of `regs`. -/
def readsAny (inst : Instruction) (regs : List Register) : Bool :=
  regs.any inst.reads

/-- Whether a destination shares a register with one of `regs`. -/
def writesAny (inst : Instruction) (regs : List Register) : Bool :=
  regs.any inst.writes

/-- Whether a destination lives in the register file. -/
def writesFile (inst : Instruction) (file : RegisterFile) : Bool :=
  inst.dst.any (·.file == file)

/-- The source in an operand slot. -/
def operand? (inst : Instruction) (slot : Int64) : Option Register :=
  if slot < 0 then none else inst.src[slot.toNatClampNeg]?

/-- What the class of an instruction asks of its operands and counts, beyond sound registers. -/
def classDefect? (inst : Instruction) : Option InstructionDefect :=
  match inst.op with
  | .unknown => some (.unknownClass inst.name.shown)
  | .mfma =>
    if inst.dst.length ≠ 1 ∨ inst.src.length ≠ 3 then
      some (.matrixOperands inst.name.shown inst.dst.length inst.src.length)
    else if inst.passes ≤ 0 then some (.matrixPasses inst.name.shown)
    else none
  | .accRead =>
    match inst.dst, inst.src with
    | [d], [s] =>
      if s.file = .accumulation ∧ d.file = .vector then none
      else some (.accReadOperands inst.name.shown)
    | _, _ => some (.accReadOperands inst.name.shown)
  | .accWrite =>
    match inst.dst, inst.src with
    | [d], [_] => if d.file = .accumulation then none else some (.accWriteOperands inst.name.shown)
    | _, _ => some (.accWriteOperands inst.name.shown)
  | .nop =>
    if inst.dst ≠ [] ∨ inst.src ≠ [] then some (.nopOperands inst.name.shown)
    else if inst.count < 0 then some (.negativeCount inst.name.shown inst.count)
    else none
  | _ => none

/-- The first defect of an instruction: of its destinations, of its sources, of what its class asks
for, and of its pass count. -/
def defect? (inst : Instruction) : Option InstructionDefect :=
  match inst.dst.findSome? Register.defect? with
  | some d => some (.destination inst.name.shown d)
  | none =>
    match inst.src.findSome? Register.defect? with
    | some d => some (.source inst.name.shown d)
    | none =>
      match inst.classDefect? with
      | some d => some d
      | none =>
        if inst.op ≠ .mfma ∧ inst.passes < 0 then some (.negativePasses inst.name.shown inst.passes)
        else none

/-- The number after the mnemonic of a no-op: one less than its wait states, and never negative. -/
def nopField (inst : Instruction) : Int64 :=
  let n := inst.count - 1
  if n < 0 then 0 else n

/-- The assembly line of an instruction, with its comment. -/
def text (inst : Instruction) : String :=
  let field := if inst.op = .nop then " " ++ Number.text inst.nopField else ""
  let operands := (inst.dst ++ inst.src).map Register.text
  let operandText := if operands.isEmpty then "" else " " ++ ", ".intercalate operands
  let comment := if inst.comment = "" then "" else " // " ++ inst.comment.shown
  inst.name.shown ++ field ++ operandText ++ comment

end Instruction

/-- An instruction stream with a name. The target may be empty, for a kernel that names none. -/
structure Kernel where
  name : RawText := ""
  target : RawText := ""
  instructions : List Instruction := []
deriving DecidableEq, Repr

end Interlock
