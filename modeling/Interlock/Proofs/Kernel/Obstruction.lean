import Interlock.Proofs.Compilation
import Interlock.Proofs.Scheduler.Failure

/-! # Which kernels cannot be compiled

A kernel of sound instructions for a known target is compiled unless one of its instructions
obstructs a rule that is active on the target.
-/

namespace Interlock

theorem Scheduler.mem_rules_new {r : Rule} {target : Target} {disabled : List String} :
    r ∈ (Scheduler.new target Catalogue.rules disabled).rules ↔
      r ∈ Catalogue.requiredOn target ∧ r.name ∉ disabled := by
  simp [Scheduler.rules, Scheduler.new, Catalogue.requiredOn, Function.comp_def, and_assoc]

namespace Kernel

variable {k : Kernel} {c : Config}

/-- The id of the target that a kernel is compiled for: its own, or else the configured one. -/
def targetId (k : Kernel) (c : Config) : RawText :=
  if k.target = "" then c.target else k.target

/-- An instruction of the kernel triggers a rule that is active on its target, but does not give the
rule what a window needs. -/
def Obstructed (k : Kernel) (c : Config) : Prop :=
  ∃ target, Target.parse (k.targetId c) = .ok target ∧
    ∃ inst ∈ k.instructions, ∃ r ∈ Catalogue.requiredOn target,
      r.name ∉ c.disabledNames ∧ r.Obstructs inst

theorem exists_outcome_iff (hsound : ∀ inst ∈ k.instructions, inst.defect? = none)
    (htarget : ∃ target, Target.parse (k.targetId c) = .ok target) :
    (∃ result, k.outcome c = .ok result) ↔ ¬ k.Obstructed c := by
  obtain ⟨target, htarget⟩ := htarget
  let s := Scheduler.new target Catalogue.rules c.disabledNames
  have houtcome : (∃ result, k.outcome c = .ok result) ↔
      ∃ out, (s.scheduleAll k.instructions).1 = .ok out := by
    have hnew : ∃ compilation, Compilation.new c k "" = .ok compilation ∧
        compilation.target = target := by
      unfold targetId at htarget
      simp only [Compilation.new, htarget]
      exact ⟨_, rfl, rfl⟩
    obtain ⟨compilation, hnew, rfl⟩ := hnew
    obtain ⟨_, _, hsame⟩ := Compilation.outcome_of_new hnew k.instructions
    rw [outcome, hnew]
    dsimp only
    rw [hsame]
    rcases s.scheduleAll k.instructions with ⟨_ | out, after⟩ <;> simp
  have hobstructed : k.Obstructed c ↔
      ∃ inst ∈ k.instructions, Scheduler.Unschedulable s.rules inst := by
    simp only [Obstructed, htarget, Except.ok.injEq, exists_eq_left', ← and_assoc,
      ← Scheduler.mem_rules_new]
    refine exists_congr fun inst => and_congr_right fun hinst => ?_
    simp [Scheduler.Unschedulable, hsound inst hinst, s]
  have hscheduled : (∃ out, (s.scheduleAll k.instructions).1 = .ok out) ↔
      s.rules = [] ∨ ∀ inst ∈ k.instructions, ¬ Scheduler.Unschedulable s.rules inst :=
    Scheduler.exists_scheduled_iff target c.disabledNames k.instructions
  rw [houtcome, hscheduled, hobstructed]
  constructor
  · rintro (hnone | hall) ⟨inst, hinst, hunschedulable⟩
    · obtain ⟨r, hr, _⟩ := hunschedulable.resolve_left (not_not_intro (hsound inst hinst))
      rw [hnone] at hr
      cases hr
    · exact hall inst hinst hunschedulable
  · exact fun h => Or.inr fun inst hinst hunschedulable => h ⟨inst, hinst, hunschedulable⟩

end Kernel

end Interlock
