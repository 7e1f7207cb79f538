import Interlock.Text.Folding
import Interlock.Text.Quoted

/-! # Opcode classes

Instructions are classified by the unit that executes them and by what hazards ask about them.
-/

namespace Interlock

/-- Opcode classes. `unassigned` stands for a class number without a meaning. -/
inductive Opcode where
  | unknown
  | nop
  | salu
  | smem
  | sendMessage
  | valu
  /-- Transcendental vector arithmetic. -/
  | transcendental
  /-- Vector compare that writes the execution mask. -/
  | compareExec
  /-- Division step that reads the condition code without naming it. -/
  | divFmas
  /-- Matrix fused multiply-add. -/
  | mfma
  | accRead
  | accWrite
  | vmemLoad
  | vmemStore
  | lds
  | unassigned (code : UInt16)
deriving DecidableEq, Repr

namespace Opcode

/-- The classes with a meaning, in the order of their numbers. -/
def assigned : List Opcode :=
  [.unknown, .nop, .salu, .smem, .sendMessage, .valu, .transcendental, .compareExec, .divFmas,
    .mfma, .accRead, .accWrite, .vmemLoad, .vmemStore, .lds]

/-- The number of a class. -/
def code (op : Opcode) : UInt16 :=
  match op with
  | .unassigned n => n
  | op => UInt16.ofNat (assigned.idxOf op)

/-- The class of a number. -/
def ofCode (n : UInt16) : Opcode :=
  (assigned[n.toNat]?).getD (.unassigned n)

/-- The class name used in kernel files. -/
def text : Opcode → String
  | .unknown => "unknown"
  | .nop => "nop"
  | .salu => "salu"
  | .smem => "smem"
  | .sendMessage => "sendmsg"
  | .valu => "valu"
  | .transcendental => "valu_trans"
  | .compareExec => "vcmpx"
  | .divFmas => "vdiv_fmas"
  | .mfma => "mfma"
  | .accRead => "accvgpr_read"
  | .accWrite => "accvgpr_write"
  | .vmemLoad => "vmem_load"
  | .vmemStore => "vmem_store"
  | .lds => "lds"
  | .unassigned _ => "unknown"

/-- The mnemonic of an instruction of this class that is built without a name. -/
def defaultMnemonic : Opcode → String
  | .unknown => ""
  | .nop => "s_nop"
  | .salu => "s_mov_b32"
  | .smem => "s_load_dword"
  | .sendMessage => "s_sendmsg"
  | .valu => "v_mov_b32"
  | .transcendental => "v_exp_f32"
  | .compareExec => "v_cmpx_eq_u32"
  | .divFmas => "v_div_fmas_f32"
  | .mfma => "v_mfma_f32_32x32x8f16"
  | .accRead => "v_accvgpr_read_b32"
  | .accWrite => "v_accvgpr_write_b32"
  | .vmemLoad => "buffer_load_dword"
  | .vmemStore => "buffer_store_dword"
  | .lds => "ds_read_b32"
  | .unassigned _ => ""

/-- Vector arithmetic, matrix instructions excluded. -/
def isValu : Opcode → Bool
  | .valu | .transcendental | .compareExec | .divFmas | .accRead | .accWrite => true
  | _ => false

/-- Vector memory access. -/
def isVmem : Opcode → Bool
  | .vmemLoad | .vmemStore => true
  | _ => false

/-- A text that names no class; `name` is the text as it was compared. -/
structure UnknownName where
  name : String
deriving DecidableEq, Repr

/-- The wording of an unknown class name. -/
def UnknownName.message (e : UnknownName) : String :=
  "unknown opcode class " ++ Text.quote e.name

/-- Finds the class of a name, in any case and between blanks. The unknown class has no name to be
found by. -/
def parse (name : String) : Except UnknownName Opcode :=
  let folded := String.ofList (Text.lower (Text.trim name.toList))
  match (assigned.drop 1).find? (·.text == folded) with
  | some op => .ok op
  | none => .error ⟨folded⟩

end Opcode

end Interlock
