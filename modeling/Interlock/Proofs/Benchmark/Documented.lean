import Interlock.Proofs.Compilation
import Interlock.Report

/-! # Benchmarks that match

A benchmark matches if its kernel is compiled with the padding that it documents. The standard
benchmarks match unless rules are disabled.
-/

namespace Interlock

theorem CompileError.message_ne_empty (e : CompileError) : e.message ≠ "" := by
  cases e <;> simp [message]

namespace Benchmark

/-- The kernel of the benchmark is compiled with the documented padding. -/
def Matches (b : Benchmark) (c : Config) : Prop :=
  ∃ result, (⟨b.name, b.target, b.kernel⟩ : Kernel).outcome c = .ok result ∧
    result.stats.padding = b.expectedPadding

theorem matched_run_iff {verbosity : Int} {id : String} {c : Config} {b : Benchmark} :
    (b.run verbosity id c).1.matched = true ↔ b.Matches c := by
  unfold run Matches
  rw [← compile_never verbosity id]
  rcases compile verbosity .never id c ⟨b.name, b.target, b.kernel⟩ with ⟨e | result, log⟩
  · simp [BenchmarkResult.matched, e.message_ne_empty]
  · simp [BenchmarkResult.matched]

/-- The padding of the benchmark's kernel with some rules disabled. -/
def padding? (b : Benchmark) (disabled : List String) : Option Int64 :=
  match Target.parse b.target with
  | .error _ => none
  | .ok target =>
    match (Scheduler.new target Catalogue.rules disabled).scheduleAll b.kernel with
    | (.error _, _) => none
    | (.ok _, after) => some after.stats.padding

/-- Of all settings, only the disabled rules decide whether a benchmark matches. -/
theorem matches_iff {b : Benchmark} {c : Config} (hnamed : b.target ≠ "") :
    b.Matches c ↔ b.padding? c.disabledNames = some b.expectedPadding := by
  have hown : (b.target : RawText) ≠ "" := fun h => hnamed (RawText.unicode.inj h)
  unfold Matches padding? Kernel.outcome
  cases hnew : Compilation.new c ⟨b.name, b.target, b.kernel⟩ "" with
  | error e =>
      simp only [Compilation.new, if_neg hown] at hnew
      cases htarget : Target.parse b.target with
      | error e => simp
      | ok target => simp [htarget] at hnew
  | ok compilation =>
      have htarget : Target.parse b.target = .ok compilation.target := by
        simp only [Compilation.new, if_neg hown] at hnew
        split at hnew
        · cases hnew
        next htarget =>
          cases hnew
          exact htarget
      obtain ⟨_, _, hsame⟩ := Compilation.outcome_of_new hnew b.kernel
      simp only [hsame, htarget]
      rcases (Scheduler.new compilation.target Catalogue.rules c.disabledNames).scheduleAll
        b.kernel with ⟨_ | out, after⟩ <;> simp

/-- As long as no rule is disabled, the padding of every standard benchmark is as documented. -/
theorem standard_matches {c : Config} (hall : c.disabledRules = []) :
    ∀ b ∈ standard, b.Matches c := by
  have hpadding : ∀ b ∈ standard,
      b.target ≠ "" ∧ b.padding? [] = some b.expectedPadding := by decide +kernel
  intro b hb
  obtain ⟨hnamed, hb⟩ := hpadding b hb
  rw [matches_iff hnamed, Config.disabledNames, hall]
  exact hb

end Benchmark

end Interlock
