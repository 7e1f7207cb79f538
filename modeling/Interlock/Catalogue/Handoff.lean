import Interlock.Catalogue.Matrix

/-! # Hazards of handing a value from one unit to another

Each of these rules has one requirement, so its windows close once a conflict was resolved.
-/

namespace Interlock.Catalogue

/-- The destinations in one register file. -/
def destinationsIn (file : RegisterFile) (inst : Instruction) : List Register :=
  inst.dst.filter (·.file == file)

/-- A scalar register written by a vector instruction, then read as an address or a descriptor. -/
def scalarToMemory : Rule where
  name := "VALUWriteSGPRVMEM"
  comment := "VALU Write SGPR -> VMEM Read Hazard"
  required := some (·.family.isCdna)
  access := .write
  trigger := some fun inst => inst.op.isValu && inst.writesFile .scalar
  selection := some (destinationsIn .scalar)
  sizes := .uniform 5
  hazard := some (whenever (.uniform 5) fun w inst =>
    (inst.op.isVmem || inst.op = .lds) && inst.readsAny w.regs)
  policy := .closeOnHazard

/-- The condition code written by a vector instruction, then read by a division step. -/
def conditionToDivision : Rule where
  name := "VALUWriteVCC"
  comment := "VALU Write VCC -> v_div_fmas Hazard"
  required := some (·.family.isCdna)
  access := .write
  trigger := some fun inst => inst.op.isValu && inst.writes .vcc
  selection := some fun _ => [.vcc]
  sizes := .uniform 4
  hazard := some (whenever (.uniform 4) fun _ inst => inst.op = .divFmas)
  policy := .closeOnHazard

/-- The execution mask written by a compare, then read by a matrix instruction. -/
def maskToMatrix : Rule where
  name := "CMPXWriteExec"
  comment := "VCMPX Write EXEC -> MFMA Hazard"
  required := some fun target => target.family = .cdna2 || isThirdGeneration target
  access := .write
  trigger := some fun inst => inst.op = .compareExec && inst.writes .exec
  selection := some fun _ => [.exec]
  sizes := .uniform 4
  hazard := some (whenever (.uniform 4) fun _ inst => inst.op = .mfma)
  policy := .closeOnHazard

/-- A transcendental result, then read by another kind of vector instruction. -/
def transcendentalUse : Rule where
  name := "VALUTransUse94x"
  comment := "VALU Trans Use Hazard"
  required := some isThirdGeneration
  access := .write
  trigger := some (·.op = .transcendental)
  selection := some (destinationsIn .vector)
  sizes := .uniform 1
  hazard := some (whenever (.uniform 1) fun w inst =>
    inst.op.isValu && inst.op ≠ .transcendental && inst.readsAny w.regs)
  policy := .closeOnHazard

/-- The memory descriptor register written by the scalar unit, then read by local memory access or
by a message. -/
def descriptorUse : Rule where
  name := "SALUWriteM0"
  comment := "SALU Write M0 Hazard"
  required := some (·.family.isCdna)
  access := .write
  trigger := some fun inst => inst.op = .salu && inst.writes .m0
  selection := some fun _ => [.m0]
  sizes := .uniform 1
  hazard := some (whenever (.uniform 1) fun _ inst =>
    (inst.op = .lds || inst.op = .sendMessage) && inst.reads .m0)
  policy := .closeOnHazard

end Interlock.Catalogue
