import Interlock.Proofs.Batch.Agreement
import Interlock.Proofs.Benchmark.Documented
import Interlock.Proofs.CommandLine.FrontEnd
import Interlock.Proofs.CommandLine.Inputs
import Interlock.Proofs.Kernel.Document
import Interlock.Proofs.Kernel.Obstruction

/-! # What an exit code says

An invocation is turned away before it schedules anything, or something that it schedules or has to
print fails, or the padded kernel cannot be written, or all is well. Which of these it is depends on
the invocation, the files and their surroundings alone, and the exit code tells, whatever front end
has read the command line.
-/

namespace Interlock.CommandLine

/-! ## How a run can end -/

namespace Invocation

variable {i : Invocation} {s : Surroundings} {files : FileTree}

theorem paths_of_schedule {stats : Bool} {output : String} (h : i.task = .schedule stats output) :
    i.paths = [i.path] := by
  have htakes : i.operands.length = 1 := by simpa [Task.Takes, h] using i.takes
  obtain ⟨first, hoperands⟩ := List.length_eq_one_iff.mp htakes
  simp [paths, path, h, hoperands]

/-- What turns an invocation away before anything is scheduled. -/
inductive Rejected (i : Invocation) (s : Surroundings) (files : FileTree) : Prop
  /-- There are no usable settings. -/
  | settings (htask : ∀ text, i.task ≠ .help text)
      (h : ∀ c, i.flags.NamesSettings s files c → ¬ c.Usable)
  | workers {n : Int64} (htask : i.task = .batch (some n)) (h : n ≤ 0)
  /-- There is no kernel under a path. -/
  | kernel {path : String} (hpath : path ∈ i.paths) (h : ∀ k, ¬ i.flags.NamesKernel s files path k)
  /-- Two formats are asked for. -/
  | formats {verbose : Bool} {cpuProfile memProfile : String}
      (htask : i.task = .bench true true verbose cpuProfile memProfile)
  /-- The processor cannot be profiled. -/
  | profile {csv json verbose : Bool} {cpuProfile memProfile : String}
      (htask : i.task = .bench csv json verbose cpuProfile memProfile) (hnamed : cpuProfile ≠ "")
      (h : ¬ (files.Writable cpuProfile ∧ s.profileRefusal .cpu = none))

/-- The standard output refuses a text that has to get through: a report in JSON, or a text on which
the front end insists. -/
def Muted (i : Invocation) (s : Surroundings) : Prop :=
  s.outputRefusal ≠ none ∧
    ((∃ csv verbose cpuProfile memProfile,
        i.task = .bench csv true verbose cpuProfile memProfile) ∨
      ∃ text, i.task = .own text true)

/-- What can fail once an invocation is not turned away. Overlapping rules are no reason, because
there are none. -/
inductive Fails (i : Invocation) (s : Surroundings) (files : FileTree) : Prop
  /-- A kernel cannot be scheduled. -/
  | scheduling {c : Config} {path : String} {k : Kernel} (hpath : path ∈ i.paths)
      (hsettings : i.flags.NamesSettings s files c) (hkernel : i.flags.NamesKernel s files path k)
      (h : k.Obstructed c)
  /-- A benchmark does not match. -/
  | benchmark {c : Config} {b : Benchmark} {csv json verbose : Bool}
      {cpuProfile memProfile : String}
      (htask : i.task = .bench csv json verbose cpuProfile memProfile)
      (hsettings : i.flags.NamesSettings s files c) (hb : b ∈ Benchmark.standard)
      (h : ¬ b.Matches c)
  | muted (h : i.Muted s)

/-- The padded kernel cannot be written where it was asked for. -/
def OutputRefused (i : Invocation) (files : FileTree) : Prop :=
  ∃ stats output, i.task = .schedule stats output ∧ output ≠ "" ∧ ¬ files.Writable output

/-- How a run ends, why it does so, and what it leaves behind. A run that is turned away changes no
file, unless it was about to profile the processor. -/
inductive Ending (i : Invocation) (s : Surroundings) (files : FileTree) :
    Outcome × FileTree → Prop
  | rejected {f : Failure} {after : FileTree} (hcode : f.exitCode = 2) (h : i.Rejected s files)
      (hafter : s.profileRefusal .cpu = none → after = files) : Ending i s files (.fail f, after)
  | failed {o : Outcome} {after : FileTree} (hcode : o.exitCode = 1)
      (hsound : ¬ i.Rejected s files) (h : i.Fails s files) : Ending i s files (o, after)
  | refused {o : Outcome} {after : FileTree} (hcode : o.exitCode = 2)
      (hsound : ¬ i.Rejected s files) (hfine : ¬ i.Fails s files) (h : i.OutputRefused files) :
      Ending i s files (o, after)
  | finished {o : Outcome} {after : FileTree} (hcode : o.exitCode = 0)
      (hsound : ¬ i.Rejected s files) (hfine : ¬ i.Fails s files) (h : ¬ i.OutputRefused files) :
      Ending i s files (o, after)

/-- Without kernels and benchmarks only the standard output can make trouble. -/
theorem not_fails_of_no_paths (hpaths : i.paths = [])
    (hbench : ∀ csv json verbose cpuProfile memProfile,
      i.task ≠ .bench csv json verbose cpuProfile memProfile)
    (hheard : ¬ i.Muted s) : ¬ i.Fails s files := by
  intro h
  cases h with
  | scheduling hpath => simp [hpaths] at hpath
  | benchmark htask => exact hbench _ _ _ _ _ htask
  | muted h => exact hheard h

end Invocation

/-! ## Steps of commands -/

section Steps

variable (s : Surroundings) (files : FileTree)

@[simp]
theorem run_id : (Host.ofTree s).id.run files = pure ("00000000", files) := rfl

@[simp]
theorem run_now : (Host.ofTree s).now.run files = pure (0, files) := rfl

@[simp]
theorem run_print (text : String) :
    ((Host.ofTree s).print text).run files =
      pure (s.outputRefusal.elim (.ok ()) .error, files) := rfl

@[simp]
theorem run_profile (kind : ProfileKind) :
    ((Host.ofTree s).profile kind).run files =
      pure ((s.profileRefusal kind).elim (.ok ()) .error, files) := rfl

theorem run_write (path : String) (content : FileContent) :
    ((Host.ofTree s).write path content).run files =
      match files.write path content with
      | .error f => pure (.error f, files)
      | .ok after => pure (.ok (), after) := by
  simp only [Host.ofTree, StateT.run_bind, StateT.run_get, pure_bind]
  cases files.write path content <;> rfl

theorem run_recordProfile (kind : ProfileKind) (path : String) :
    ∃ recorded after, (recordProfile (.ofTree s) kind path).run files = pure (recorded, after) ∧
      (recorded = .ok () ↔
        path = "" ∨ files.Writable path ∧ s.profileRefusal kind = none) ∧
      ∀ e, recorded = .error e → s.profileRefusal kind = none → after = files := by
  unfold recordProfile
  by_cases hnone : path = ""
  · exact ⟨.ok (), files, by simp [hnone], by simp [hnone], by simp⟩
  simp only [hnone, if_false, StateT.run_bind, run_write, ← files.exists_write_iff path .profile,
    false_or]
  cases files.write path .profile with
  | error f => exact ⟨.error (.creating f), files, rfl, by simp, fun _ _ _ => rfl⟩
  | ok after =>
      cases hrefusal : s.profileRefusal kind with
      | none => exact ⟨.ok (), after, by simp [hrefusal], by simp, by simp⟩
      | some cause => exact ⟨.error (.recording cause), after, by simp [hrefusal], by simp, by simp⟩

theorem run_benchmarks (flags : SharedFlags) (c : Config) (bs : List Benchmark) :
    ∃ results log,
      (runBenchmarks (.ofTree s) flags c bs).run files = pure ((results, log), files) ∧
        ((results.filter fun r => !r.matched).length = 0 ↔ ∀ b ∈ bs, b.Matches c) := by
  induction bs with
  | nil => exact ⟨[], [], rfl, by simp⟩
  | cons b rest ih =>
      obtain ⟨results, more, hrun, hmatched⟩ := ih
      have hfirst := @Benchmark.matched_run_iff flags.verbosity "00000000" c b
      simp only [runBenchmarks, StateT.run_bind, run_now, run_id, pure_bind, hrun]
      refine ⟨_, _, rfl, ?_⟩
      rw [List.forall_mem_cons, ← hmatched, ← hfirst]
      rcases b.run flags.verbosity "00000000" c with ⟨result, log⟩
      -- How long it took does not matter.
      have htimed : ∀ wallTime,
          ({ result with wallTime } : BenchmarkResult).matched = result.matched := fun _ => rfl
      cases hresult : result.matched <;> simp [htimed, hresult]

theorem benchFailure_cases (json : Bool) (refusal : Option String)
    (results : List BenchmarkResult) :
    (benchFailure json (refusal.elim (.ok ()) .error) results = none ↔
      (results.filter fun r => !r.matched).length = 0 ∧ (json = true → refusal = none)) ∧
    ∀ f ∈ benchFailure json (refusal.elim (.ok ()) .error) results, f.exitCode = 1 := by
  unfold benchFailure
  by_cases hall : (results.filter fun r => !r.matched).length = 0
  all_goals cases json <;> cases refusal <;> simp [hall, Failure.exitCode, Failure.code?]

end Steps

/-! ## Commands -/

section Commands

variable {i : Invocation} {s : Surroundings} {files : FileTree} {c : Config}
  (hsettings : i.flags.NamesSettings s files c) (husable : c.Usable)

include hsettings husable

/-- A kernel that was found is compiled unless it is obstructed. -/
theorem compiled_iff {path : String} {k : Kernel} (hkernel : i.flags.NamesKernel s files path k) :
    (∃ result, k.outcome c = .ok result) ↔ ¬ k.Obstructed c := by
  obtain ⟨text, parsed, _, hparse, rfl⟩ := hkernel
  have hparsed := Kernel.documented_of_parse hparse
  refine Kernel.exists_outcome_iff (fun inst hinst => (hparsed.instructions inst hinst).sound) ?_
  -- The target is the one asked for, that of the kernel, or the configured one.
  by_cases hasked : i.flags.target.getD "" = ""
  · rcases hparsed.target with hnone | hown
    · simpa [Kernel.targetId, hasked, hnone] using husable.target
    · by_cases hnone : parsed.target = ""
      · simpa [Kernel.targetId, hasked, hnone] using husable.target
      · simpa [Kernel.targetId, hasked, hnone] using hown
  · obtain ⟨loaded, _, rfl⟩ := hsettings
    cases htarget : i.flags.target with
    | none => simp [htarget] at hasked
    | some target =>
        have hconfigured := husable.target
        simp only [htarget, Option.getD_some] at hasked
        simp only [htarget, Option.map_some, Option.getD_some] at hconfigured
        have hnamed : RawText.unicode target ≠ "" := fun h => hasked (RawText.unicode.inj h)
        simpa [Kernel.targetId, hasked, hnamed] using hconfigured

theorem not_rejected (hkernels : ∀ path ∈ i.paths, ∃ k, i.flags.NamesKernel s files path k)
    (hworkers : ∀ n, i.task = .batch (some n) → 0 < n)
    (hbench : ∀ csv json verbose cpuProfile memProfile,
      i.task = .bench csv json verbose cpuProfile memProfile →
        ¬ (csv ∧ json) ∧
          (cpuProfile = "" ∨ files.Writable cpuProfile ∧ s.profileRefusal .cpu = none)) :
    ¬ i.Rejected s files := by
  intro h
  cases h with
  | settings _ h => exact h c hsettings husable
  | workers htask h => exact absurd (hworkers _ htask) (Int64.not_lt.mpr h)
  | kernel hpath h =>
      obtain ⟨k, hk⟩ := hkernels _ hpath
      exact h k hk
  | formats htask => exact (hbench _ _ _ _ _ htask).1 ⟨rfl, rfl⟩
  | profile htask hnamed h => exact (hbench _ _ _ _ _ htask).2.elim hnamed h

/-- Of the tasks that run no benchmarks and have nothing to insist on, exactly those fail that
cannot compile all of their kernels. -/
theorem compiled_iff_not_fails {ks : List Kernel}
    (hkernels : List.Forall₂ (i.flags.NamesKernel s files) i.paths ks)
    (hbench : ∀ csv json verbose cpuProfile memProfile,
      i.task ≠ .bench csv json verbose cpuProfile memProfile)
    (hheard : ¬ i.Muted s) :
    (∀ k ∈ ks, ∃ result, k.outcome c = .ok result) ↔ ¬ i.Fails s files := by
  have hfails : i.Fails s files ↔ ∃ k ∈ ks, k.Obstructed c := by
    rw [exists_mem_of_namesKernels hkernels]
    constructor
    · intro h
      cases h with
      | scheduling hpath hsettings' hkernel h =>
          exact ⟨_, hpath, _, hkernel, hsettings.unique hsettings' ▸ h⟩
      | benchmark htask => exact absurd htask (hbench _ _ _ _ _)
      | muted h => exact absurd h hheard
    · rintro ⟨path, hpath, k, hkernel, h⟩
      exact .scheduling hpath hsettings hkernel h
  rw [hfails]
  push Not
  refine forall₂_congr fun k hk => ?_
  obtain ⟨path, _, k', hkernel, rfl⟩ := (exists_mem_of_namesKernels hkernels).mp ⟨k, hk, rfl⟩
  exact compiled_iff hsettings husable hkernel

theorem ending_schedule {stats : Bool} {output : String} (htask : i.task = .schedule stats output) :
    i.Ending s files ((runSchedule (.ofTree s) i.flags c i.path stats output).run files) := by
  have hpaths := Invocation.paths_of_schedule htask
  obtain ⟨found, hrun, hfound⟩ := run_loadKernel s i.flags files i.path
  simp only [runSchedule, StateT.run_bind, hrun, pure_bind]
  cases found with
  | error e =>
      refine .rejected rfl (.kernel (by simp [hpaths] : i.path ∈ i.paths) fun k hk => ?_)
        fun _ => rfl
      cases (hfound k).mpr hk
  | ok k =>
      have hkernel : i.flags.NamesKernel s files i.path k := (hfound k).mp rfl
      have hsound : ¬ i.Rejected s files := by
        apply not_rejected hsettings husable <;> simp [htask, hpaths]
        exact ⟨k, hkernel⟩
      have hcompiled : (∃ result, k.outcome c = .ok result) ↔ ¬ i.Fails s files := by
        have hkernels : List.Forall₂ (i.flags.NamesKernel s files) i.paths [k] := by
          simp [hpaths, hkernel]
        simpa using compiled_iff_not_fails hsettings husable hkernels (by simp [htask])
          (by simp [Invocation.Muted, htask])
      rw [← compile_never i.flags.verbosity "00000000"] at hcompiled
      simp only [StateT.run_bind, run_id, pure_bind]
      rcases hresult : compile i.flags.verbosity .never "00000000" c k with ⟨e | result, log⟩
      all_goals rw [hresult] at hcompiled
      · exact .failed rfl hsound (by simpa using hcompiled)
      have hfine : ¬ i.Fails s files := hcompiled.mp ⟨result, rfl⟩
      have hrefused : i.OutputRefused files ↔ output ≠ "" ∧ ¬ files.Writable output := by
        simp [Invocation.OutputRefused, htask]
      simp only [StateT.run_bind, run_print, pure_bind]
      by_cases hnone : output = ""
      · simp only [hnone, if_true]
        exact .finished rfl hsound hfine (by simp [hrefused, hnone])
      simp only [hnone, if_false, StateT.run_bind, run_write]
      have hwrite := files.exists_write_iff output
        (.text (result.padded.write (Host.ofTree s).kernelFormat))
      cases hwritten : files.write output
          (.text (result.padded.write (Host.ofTree s).kernelFormat)) with
      | error f =>
          refine .refused rfl hsound hfine (hrefused.mpr ⟨hnone, ?_⟩)
          rw [← hwrite, hwritten]
          simp
      | ok after =>
          refine .finished rfl hsound hfine fun h => ?_
          exact (hrefused.mp h).2 (hwrite.mp ⟨after, hwritten⟩)

theorem ending_rules {all : Bool} (htask : i.task = .rules all) :
    i.Ending s files ((runRules (.ofTree s) c all).run files) := by
  have hpaths : i.paths = [] := by simp [Invocation.paths, htask]
  have hsound : ¬ i.Rejected s files := by
    apply not_rejected hsettings husable <;> simp [htask, hpaths]
  have hfine : ¬ i.Fails s files :=
    Invocation.not_fails_of_no_paths hpaths (by simp [htask]) (by simp [Invocation.Muted, htask])
  obtain ⟨target, htarget⟩ := husable.target
  simp only [runRules, Catalogue.overlaps_exclusiveGroups, htarget]
  split
  all_goals
    simp only [StateT.run_bind, run_print, pure_bind]
    exact .finished rfl hsound hfine (by simp [Invocation.OutputRefused, htask])

theorem ending_batch {workers : Option Int64} (htask : i.task = .batch workers) :
    i.Ending s files ((runBatch (.ofTree s) i.flags c i.operands workers).run files) := by
  have hpaths : i.paths = i.operands := by simp [Invocation.paths, htask]
  have hchecked : ∀ c', batchSettings c workers = .ok c' ↔
      c' = { c with workers := workers.getD c.workers } ∧ ∀ n ∈ workers, 0 < n :=
    fun _ => batchSettings_eq_ok_iff husable
  unfold runBatch
  cases hbatch : batchSettings c workers with
  | error e =>
      have hworkers : ¬ ∀ n ∈ workers, 0 < n := by
        intro h
        cases hbatch.symm.trans ((hchecked _).mpr ⟨rfl, h⟩)
      simp only [Option.mem_def, not_forall] at hworkers
      obtain ⟨n, rfl, hn⟩ := hworkers
      exact .rejected rfl (.workers htask (Int64.not_lt.mp hn)) fun _ => rfl
  | ok c' =>
      obtain ⟨hsettled, hworkers⟩ := (hchecked c').mp hbatch
      obtain ⟨found, hrun, hfound⟩ := run_loadKernels s i.flags files i.operands
      simp only [StateT.run_bind, hrun, pure_bind]
      cases found with
      | error e =>
          have hmissing : ¬ ∀ path ∈ i.operands, ∃ k, i.flags.NamesKernel s files path k := by
            rw [← exists_namesKernels_iff]
            rintro ⟨ks, hks⟩
            cases (hfound ks).mpr hks
          simp only [not_forall, not_exists] at hmissing
          obtain ⟨path, hpath, h⟩ := hmissing
          exact .rejected rfl (.kernel (by rwa [hpaths]) h) fun _ => rfl
      | ok ks =>
          have hkernels : List.Forall₂ (i.flags.NamesKernel s files) i.paths ks := by
            rw [hpaths]
            exact (hfound ks).mp rfl
          have hsound : ¬ i.Rejected s files := by
            apply not_rejected hsettings husable
            · exact exists_namesKernels_iff.mp ⟨ks, hkernels⟩
            · intro n h
              cases htask.symm.trans h
              exact hworkers n rfl
            · simp [htask]
          -- The number of workers makes no difference to a kernel.
          have hsame : ∀ k : Kernel, k.outcome c' = k.outcome c := by
            rw [hsettled]
            exact fun _ => rfl
          have hall : (∃ results,
              (Batch.run i.flags.verbosity false "00000000" c' ks).1 = .ok results) ↔
                ¬ i.Fails s files := by
            simp only [Batch.exists_run_iff, hsame]
            exact compiled_iff_not_fails hsettings husable hkernels (by simp [htask])
              (by simp [Invocation.Muted, htask])
          have hgoing :
              (Batch.run i.flags.verbosity false "00000000" c' ks).1 ≠ .error .cancelled :=
            Batch.run_ne_cancelled
          simp only [StateT.run_bind, run_id, pure_bind]
          rcases hresult : Batch.run i.flags.verbosity false "00000000" c' ks with
            ⟨(_ | e) | results, log⟩
          all_goals rw [hresult] at hall hgoing
          · exact absurd rfl hgoing
          · exact .failed rfl hsound (by simpa using hall)
          · simp only [StateT.run_bind, run_print, pure_bind]
            refine .finished rfl hsound (hall.mp ⟨results, rfl⟩) ?_
            simp [Invocation.OutputRefused, htask]

omit husable in
/-- Of the tasks that run benchmarks, exactly those fail that do not find all of them matching or do
not get their report through. -/
theorem matched_iff_not_fails {csv json verbose : Bool} {cpuProfile memProfile : String}
    (htask : i.task = .bench csv json verbose cpuProfile memProfile) :
    (∀ b ∈ Benchmark.standard, b.Matches c) ∧ (json = true → s.outputRefusal = none) ↔
      ¬ i.Fails s files := by
  have hmuted : i.Muted s ↔ s.outputRefusal ≠ none ∧ json = true := by
    simp [Invocation.Muted, htask]
  constructor
  · rintro ⟨hall, hheard⟩ h
    cases h with
    | scheduling hpath => simp [Invocation.paths, htask] at hpath
    | benchmark _ hsettings' hb h => exact h (hsettings'.unique hsettings ▸ hall _ hb)
    | muted h => exact (hmuted.mp h).1 (hheard (hmuted.mp h).2)
  · intro hfine
    constructor
    · intro b hb
      by_contra h
      exact hfine (.benchmark htask hsettings hb h)
    · intro hjson
      by_contra h
      exact hfine (.muted (hmuted.mpr ⟨h, hjson⟩))

theorem ending_bench {csv json verbose : Bool} {cpuProfile memProfile : String}
    (htask : i.task = .bench csv json verbose cpuProfile memProfile) :
    i.Ending s files
      ((runBench (.ofTree s) i.flags c csv json verbose cpuProfile memProfile).run files) := by
  unfold runBench
  by_cases hformats : csv ∧ json
  · simp only [hformats, and_self, if_true]
    obtain ⟨rfl, rfl⟩ := hformats
    exact .rejected rfl (.formats htask) fun _ => rfl
  simp only [hformats, if_false]
  obtain ⟨recorded, running, hstart, hrecorded, hunchanged⟩ :=
    run_recordProfile s files .cpu cpuProfile
  rw [StateT.run_bind, hstart, pure_bind]
  cases recorded with
  | error e =>
      have hrefused :
          ¬ (cpuProfile = "" ∨ files.Writable cpuProfile ∧ s.profileRefusal .cpu = none) :=
        fun h => by cases hrecorded.mpr h
      rw [not_or] at hrefused
      exact .rejected rfl (.profile htask hrefused.1 hrefused.2) (hunchanged e rfl)
  | ok _ =>
      have hsound : ¬ i.Rejected s files := by
        apply not_rejected hsettings husable
        · simp [Invocation.paths, htask]
        · simp [htask]
        · intro _ _ _ _ _ h
          cases htask.symm.trans h
          exact ⟨hformats, hrecorded.mp rfl⟩
      have hrefused : ¬ i.OutputRefused files := by simp [Invocation.OutputRefused, htask]
      obtain ⟨results, log, hrun, hmatched⟩ :=
        run_benchmarks s running i.flags c Benchmark.standard
      obtain ⟨_, after, hstop, _⟩ := run_recordProfile s running .heap memProfile
      obtain ⟨hfine, hfailed⟩ := benchFailure_cases json s.outputRefusal results
      rw [hmatched, matched_iff_not_fails hsettings htask] at hfine
      simp only [StateT.run_bind, hrun, run_print, pure_bind, hstop]
      cases hfailure : benchFailure json (s.outputRefusal.elim (.ok ()) .error) results with
      | none => exact .finished rfl hsound (hfine.mp hfailure) hrefused
      | some f =>
          refine .failed (hfailed f hfailure) hsound ?_
          by_contra h
          rw [hfine.mpr h] at hfailure
          cases hfailure

theorem ending_own {text : String} {strict : Bool} (htask : i.task = .own text strict) :
    i.Ending s files ((display (.ofTree s) text strict).run files) := by
  have hpaths : i.paths = [] := by simp [Invocation.paths, htask]
  have hsound : ¬ i.Rejected s files := by
    apply not_rejected hsettings husable <;> simp [htask, hpaths]
  have hmuted : i.Muted s ↔ s.outputRefusal ≠ none ∧ strict = true := by
    simp [Invocation.Muted, htask]
  have hfine : ¬ i.Muted s → ¬ i.Fails s files :=
    Invocation.not_fails_of_no_paths hpaths (by simp [htask])
  have hrefused : ¬ i.OutputRefused files := by simp [Invocation.OutputRefused, htask]
  simp only [display, StateT.run_bind, run_print, pure_bind]
  cases hrefusal : s.outputRefusal with
  | none => exact .finished (by simp; rfl) hsound (hfine (by simp [hmuted, hrefusal])) hrefused
  | some cause =>
      cases strict with
      | false => exact .finished rfl hsound (hfine (by simp [hmuted])) hrefused
      | true => exact .failed rfl hsound (.muted (by simp [hmuted, hrefusal]))

/-- A command that is carried out with usable settings ends in one of the four ways. -/
theorem ending_performed (htask : ∀ text, i.task ≠ .help text) :
    i.Ending s files ((i.run (.ofTree s) c).run files) := by
  unfold Invocation.run
  cases hcommand : i.task with
  | schedule stats output => exact ending_schedule hsettings husable hcommand
  | rules all => exact ending_rules hsettings husable hcommand
  | batch workers => exact ending_batch hsettings husable hcommand
  | bench csv json verbose cpuProfile memProfile =>
      exact ending_bench hsettings husable hcommand
  | own text strict => exact ending_own hsettings husable hcommand
  | help text => exact absurd hcommand (htask text)

end Commands

/-! ## The result -/

section Result

variable {frontEnd : FrontEnd (StateM FileTree)} {arguments : List String} {i : Invocation}
  {s : Surroundings} {files : FileTree}

/-- Help is shown whatever is in the files. -/
theorem ending_help {text : String} (htask : i.task = .help text) :
    i.Ending s files ((display (.ofTree s) text false).run files) := by
  have hrun : (display (.ofTree s) text false).run files = pure ({ stdout := text }, files) := by
    simp [display]
  have hpaths : i.paths = [] := by simp [Invocation.paths, htask]
  have hsound : ¬ i.Rejected s files := by
    intro h
    cases h with
    | settings hno => exact hno text htask
    | workers h | formats h | profile h => simp [htask] at h
    | kernel hpath => simp [hpaths] at hpath
  have hfine : ¬ i.Fails s files :=
    Invocation.not_fails_of_no_paths hpaths (by simp [htask]) (by simp [Invocation.Muted, htask])
  rw [hrun]
  exact .finished rfl hsound hfine (by simp [Invocation.OutputRefused, htask])

/-- Every run of an invocation ends in one of the four ways. -/
theorem ending_execute (hfrontEnd : frontEnd.Documented arguments)
    (hread : frontEnd.read arguments = .ok i.toRequest) :
    i.Ending s files ((frontEnd.execute (program (.ofTree s)) arguments).run files) := by
  by_cases hhelp : ∃ text, i.task = .help text
  · obtain ⟨text, htask⟩ := hhelp
    rw [hfrontEnd.help hread htask]
    exact ending_help htask
  have htask : ∀ text, i.task ≠ .help text := not_exists.mp hhelp
  obtain ⟨found, hrun, hfound⟩ := run_settings s i.flags files
  rw [hfrontEnd.command hread htask]
  simp only [program, StateT.run_bind, hrun, pure_bind]
  cases found with
  | error e =>
      refine .rejected rfl (.settings htask fun c hsettings husable => ?_) fun _ => rfl
      cases (hfound c).mpr ⟨hsettings, husable⟩
  | ok c =>
      obtain ⟨hsettings, husable⟩ := (hfound c).mp rfl
      exact ending_performed hsettings husable htask

/-- The exit code tells the four ways apart, up to what it is two for. -/
theorem Invocation.Ending.classified {ended : Outcome × FileTree} (h : i.Ending s files ended) :
    (ended.1.exitCode = 2 ↔ i.Rejected s files ∨ ¬ i.Fails s files ∧ i.OutputRefused files) ∧
      (ended.1.exitCode = 1 ↔ ¬ i.Rejected s files ∧ i.Fails s files) ∧
      (ended.1.exitCode = 0 ↔
        ¬ i.Rejected s files ∧ ¬ i.Fails s files ∧ ¬ i.OutputRefused files) ∧
      (i.Rejected s files → ∃ f after, ended = (.fail f, after) ∧
        (s.profileRefusal .cpu = none → after = files)) := by
  cases h with
  | @rejected f after hcode h hafter =>
      have hcode : (Outcome.fail f).exitCode = 2 := hcode
      simpa [hcode, h] using hafter
  | failed hcode hsound h => simp [hcode, hsound, h]
  | refused hcode hsound hfine h => simp [hcode, hsound, hfine, h]
  | finished hcode hsound hfine h => simp [hcode, hsound, hfine, h]

end Result

end Interlock.CommandLine
