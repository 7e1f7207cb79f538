import Interlock.Kernel.Document
import Interlock.Proofs.Compilation
import Interlock.Proofs.Register.Spelling
import Interlock.Proofs.Target

/-! # Kernels that are kept and read again

What a document holds once its names are resolved can be spelled out, and resolving the spelled-out
names gives it back. A padded kernel consists of instructions that were read and of padding, both of
which a document can hold, so it survives being kept as long as the text of its document can be
read.
-/

namespace Interlock

namespace Opcode

theorem mem_of_parse {name : String} {op : Opcode} (h : parse name = .ok op) :
    op ∈ assigned.drop 1 := by
  unfold parse at h
  dsimp only at h
  split at h
  next hfind =>
    cases h
    exact List.mem_of_find?_eq_some hfind
  next => cases h

theorem parse_text_of_mem : ∀ op ∈ assigned.drop 1, parse op.text = .ok op := by
  decide +kernel

theorem defaultMnemonic_ne_empty :
    ∀ op ∈ assigned.drop 1, RawText.unicode op.defaultMnemonic ≠ .unicode "" := by
  decide +kernel

end Opcode

/-! ## Instructions -/

/-- What a document can hold as an instruction. -/
structure Instruction.Documented (inst : Instruction) : Prop where
  op : inst.op ∈ Opcode.assigned.drop 1
  name : inst.name ≠ ""
  dst : ∀ r ∈ inst.dst, r.Spellable
  src : ∀ r ∈ inst.src, r.Spellable
  sound : inst.defect? = none

theorem Instruction.documented_pad (comment : RawText) : (Instruction.pad comment).Documented where
  op := by simp [pad, nop, new, Opcode.assigned]
  name := Opcode.defaultMnemonic_ne_empty .nop (by decide)
  dst := by simp [pad, nop, new]
  src := by simp [pad, nop, new]
  sound := rfl

namespace InstructionDocument

theorem documented_of_resolve {d : InstructionDocument} {inst : Instruction}
    (h : d.resolve = .ok inst) : inst.Documented := by
  unfold resolve at h
  cases hop : Opcode.parse d.op with
  | error e => simp [hop] at h
  | ok op =>
      cases hdst : Register.parseAll d.dst with
      | error e => simp [hop, hdst] at h
      | ok dst =>
          cases hsrc : Register.parseAll d.src with
          | error e => simp [hop, hdst, hsrc] at h
          | ok src =>
              simp only [hop, hdst, hsrc] at h
              split at h
              · cases h
              next hsound =>
                cases h
                exact
                  { op := Opcode.mem_of_parse hop
                    name := by
                      simp only [Instruction.new]
                      split
                      · exact Opcode.defaultMnemonic_ne_empty op (Opcode.mem_of_parse hop)
                      · assumption
                    dst := Register.spellable_of_parseAll hdst
                    src := Register.spellable_of_parseAll hsrc
                    sound := hsound }

theorem resolve_ofInstruction {inst : Instruction} (h : inst.Documented) :
    (ofInstruction inst).resolve = .ok inst := by
  have hsame : ({ Instruction.new inst.op inst.name inst.dst inst.src with
      passes := inst.passes
      count := inst.count
      comment := inst.comment
      padding := inst.padding } : Instruction) = inst := by
    simp only [Instruction.new, if_neg h.name]
  simp only [resolve, ofInstruction, Opcode.parse_text_of_mem inst.op h.op,
    Register.parseAll_map_text h.dst, Register.parseAll_map_text h.src, hsame, h.sound]

theorem documented_of_resolveFrom {position : Nat} {ds : List InstructionDocument}
    {insts : List Instruction} (h : resolveFrom position ds = .ok insts) :
    ∀ inst ∈ insts, inst.Documented := by
  induction ds generalizing position insts with
  | nil =>
      cases h
      simp
  | cons d rest ih =>
      unfold resolveFrom at h
      cases hfirst : d.resolve with
      | error e => simp [hfirst] at h
      | ok inst =>
          cases hrest : resolveFrom (position + 1) rest with
          | error e => simp [hfirst, hrest] at h
          | ok insts =>
              simp only [hfirst, hrest, Except.ok.injEq] at h
              subst h
              exact List.forall_mem_cons.mpr ⟨documented_of_resolve hfirst, ih hrest⟩

theorem resolveFrom_map_ofInstruction (position : Nat) {insts : List Instruction}
    (h : ∀ inst ∈ insts, inst.Documented) :
    resolveFrom position (insts.map ofInstruction) = .ok insts := by
  induction insts generalizing position with
  | nil => rfl
  | cons inst rest ih =>
      obtain ⟨hfirst, hrest⟩ := List.forall_mem_cons.mp h
      simp only [List.map_cons, resolveFrom, resolve_ofInstruction hfirst, ih (position + 1) hrest]

end InstructionDocument

/-! ## Kernels -/

/-- The text of a value is read as the value. -/
def Yaml.Format.Faithful {α : Type} (format : Yaml.Format α) (a : α) : Prop :=
  format.read (format.write a) = .ok a

instance {α : Type} [DecidableEq α] (format : Yaml.Format α) (a : α) :
    Decidable (format.Faithful a) :=
  inferInstanceAs (Decidable (format.read (format.write a) = .ok a))

namespace Kernel

/-- What a document can hold as a kernel. -/
structure Documented (k : Kernel) : Prop where
  target : k.target = "" ∨ ∃ target, Target.parse k.target = .ok target
  instructions : ∀ inst ∈ k.instructions, inst.Documented

theorem ofDocument_eq_ok {d : KernelDocument} {k : Kernel} (h : ofDocument d = .ok k) :
    (k.target = "" ∨ ∃ target, Target.parse k.target = .ok target) ∧
      InstructionDocument.resolveFrom 0 d.instructions = .ok k.instructions := by
  unfold ofDocument at h
  cases hinsts : InstructionDocument.resolveFrom 0 d.instructions with
  | error e =>
      simp only [hinsts] at h
      split at h
      · cases h
      · split at h
        · cases h
        · cases h
  | ok instructions =>
      simp only [hinsts] at h
      split at h
      next hempty =>
        cases h
        exact ⟨Or.inl hempty, rfl⟩
      next =>
        split at h
        · cases h
        next target htarget =>
          cases h
          exact ⟨Or.inr ⟨target, htarget⟩, rfl⟩

variable {format : Yaml.Format KernelDocument}

theorem documented_of_parse {text : String} {k : Kernel} (h : parse text format = .ok k) :
    k.Documented := by
  unfold parse at h
  split at h
  · cases h
  · obtain ⟨htarget, hinsts⟩ := ofDocument_eq_ok h
    exact ⟨htarget, InstructionDocument.documented_of_resolveFrom hinsts⟩

theorem ofDocument_toDocument {k : Kernel} (h : k.Documented) :
    ofDocument k.toDocument = .ok k := by
  have hinsts := InstructionDocument.resolveFrom_map_ofInstruction 0 h.instructions
  unfold ofDocument toDocument
  simp only [hinsts]
  split
  · rfl
  next hnamed =>
    obtain ⟨target, htarget⟩ := h.target.resolve_left hnamed
    simp only [htarget]

theorem parse_write {k : Kernel} (h : k.Documented) (hfaithful : format.Faithful k.toDocument) :
    parse (k.write format) format = .ok k := by
  unfold Yaml.Format.Faithful at hfaithful
  unfold parse write
  rw [hfaithful]
  exact ofDocument_toDocument h

end Kernel

/-! ## Padded kernels -/

theorem Scheduler.mem_emitted {ds : List Decision} {stream : List Instruction} {inst : Instruction}
    (h : inst ∈ emitted ds stream) : inst ∈ stream ∨ ∃ comment, inst = .pad comment := by
  induction ds generalizing stream with
  | nil => simp at h
  | cons d ds ih =>
      cases stream with
      | nil => simp [emitted] at h
      | cons first rest =>
          simp only [emitted_cons, Decision.emit, Decision.fill, List.mem_append,
            List.mem_singleton] at h
          rcases h with (hpad | rfl) | hrest
          · exact Or.inr ⟨_, List.eq_of_mem_replicate hpad⟩
          · exact Or.inl List.mem_cons_self
          · exact (ih hrest).imp_left (List.mem_cons_of_mem first)

theorem CompiledKernel.documented_padded {k : Kernel} {config : Config} {result : CompiledKernel}
    (h : k.outcome config = .ok result) (hk : ∀ inst ∈ k.instructions, inst.Documented) :
    result.padded.Documented := by
  obtain ⟨htarget, ds, hinsts⟩ := Kernel.outcome_eq_ok h
  constructor
  · exact Or.inr ⟨_, Target.parse_text htarget⟩
  · intro inst hinst
    rw [padded, hinsts] at hinst
    rcases Scheduler.mem_emitted hinst with hmem | ⟨comment, rfl⟩
    · exact hk inst hmem
    · exact Instruction.documented_pad comment

/-- A kernel without a name, in a layout that is not the one it is written in. -/
def earlyReadText : String :=
  "instructions: [{op: SALU, name: a, dst: [M0]}, {op: lds, name: b, src: [m0]}]"

/-- The kernel of the text. Its second instruction reads a register too early. -/
def earlyRead : Kernel where
  instructions := [.new .salu "a" [.m0] [], .new .lds "b" [] [.m0]]

end Interlock
