import Interlock.Proofs.Batch.Pool

/-! # A batch agrees with its kernels one by one

However the workers of a batch take turns, the batch ends, and what it returns is what compiling its
kernels one after the other returns, up to which of several failures is reported.
-/

namespace Interlock.Batch

/-! ## One by one -/

/-- Compiling one kernel of a batch by itself, under some name and with some reports. -/
def Workload.alone (w : Workload) (verbosity : Int) (id : String) (kernel : Kernel) :
    Except CompileError CompiledKernel :=
  (compile verbosity .never id w.config kernel).1

section

variable {verbosity : Int} {id : String} {config : Config} {kernels : List Kernel}

theorem compileAll_of_ok {results : List CompiledKernel}
    (h : List.Forall₂ (fun kernel result => kernel.outcome config = .ok result) kernels results) :
    (compileAll verbosity id config kernels).1 = .ok results := by
  induction h with
  | nil => rfl
  | @cons kernel result kernels results hkernel _ ih =>
      rw [← compile_never verbosity id] at hkernel
      unfold compileAll
      rcases hcompile : compile verbosity .never id config kernel with ⟨outcome, log⟩
      rcases hrest : compileAll verbosity id config kernels with ⟨outcomes, more⟩
      rw [hcompile] at hkernel
      rw [hrest] at ih
      cases hkernel
      cases ih
      rfl

theorem compileAll_of_error {i : Nat} {kernel : Kernel} {e : CompileError}
    (hkernel : kernels[i]? = some kernel) (herror : kernel.outcome config = .error e)
    (hbefore : ∀ j < i, ∀ earlier, kernels[j]? = some earlier →
      ∃ result, earlier.outcome config = .ok result) :
    (compileAll verbosity id config kernels).1 = .error e := by
  induction kernels generalizing i with
  | nil => simp at hkernel
  | cons first rest ih =>
      unfold compileAll
      rcases hcompile : compile verbosity .never id config first with ⟨outcome, log⟩
      have houtcome := compile_never verbosity id config first
      rw [hcompile] at houtcome
      cases i with
      | zero =>
          cases hkernel
          rw [herror] at houtcome
          cases houtcome
          rfl
      | succ i =>
          obtain ⟨result, hresult⟩ := hbefore 0 (Nat.succ_pos i) first rfl
          rw [hresult] at houtcome
          cases houtcome
          have hrest := ih hkernel fun j hj => hbefore (j + 1) (Nat.succ_lt_succ hj)
          rcases hmore : compileAll verbosity id config rest with ⟨outcomes, more⟩
          rw [hmore] at hrest
          cases hrest
          rfl

theorem exists_compileAll_iff :
    (∃ results, (compileAll verbosity id config kernels).1 = .ok results) ↔
      ∀ kernel ∈ kernels, ∃ result, kernel.outcome config = .ok result := by
  induction kernels with
  | nil => simp [compileAll]
  | cons first rest ih =>
      rw [List.forall_mem_cons, ← ih, ← compile_never verbosity id, compileAll]
      rcases compile verbosity .never id config first with ⟨_ | result, log⟩
      · simp
      · rcases compileAll verbosity id config rest with ⟨_ | results, more⟩ <;> simp

theorem run_eq (verbosity : Int) (id : String) (config : Config) (kernels : List Kernel) :
    (run verbosity false id config kernels).1 =
      (compileAll verbosity id config kernels).1.mapError .kernel := by
  unfold run
  rcases compileAll verbosity id config kernels with ⟨outcomes, log⟩
  cases outcomes with
  | error e => rfl
  | ok results => rfl

theorem run_ne_cancelled : (run verbosity false id config kernels).1 ≠ .error .cancelled := by
  rw [run_eq]
  cases (compileAll verbosity id config kernels).1 <;> simp [Except.mapError]

/-- A batch is compiled exactly if each of its kernels is. -/
theorem exists_run_iff :
    (∃ results, (run verbosity false id config kernels).1 = .ok results) ↔
      ∀ kernel ∈ kernels, ∃ result, kernel.outcome config = .ok result := by
  have hall : (∃ results, (compileAll verbosity id config kernels).1 = .ok results) ↔ _ :=
    exists_compileAll_iff
  rw [← hall, run_eq]
  cases (compileAll verbosity id config kernels).1 <;> simp [Except.mapError]

end

/-! ## Batches that ended -/

namespace Pool

variable {w : Workload} {s : Pool}

theorem finished_of_ended (hended : s.ended w = true) {i : Nat} (hi : i < w.kernels.length) :
    s.workers[i]? = some .finished := by
  simp only [ended, Bool.and_eq_true, decide_eq_true_eq, List.all_eq_true] at hended
  obtain ⟨hlength, hfinished⟩ := hended
  have hi' : i < s.workers.length := hlength ▸ hi
  refine List.getElem?_eq_some_iff.mpr ⟨hi', ?_⟩
  have hlast := hfinished _ (List.getElem_mem hi')
  cases hphase : s.workers[i] with
  | finished => rfl
  | _ => simp [hphase, Phase.isFinished] at hlast

theorem exists_map_some {α β : Type} {R : α → β → Prop} {items : List α} {places : List (Option β)}
    (h : List.Forall₂ (fun item place => ∃ value, place = some value ∧ R item value) items places) :
    ∃ values, places = values.map some ∧ List.Forall₂ R items values := by
  induction h with
  | nil => exact ⟨[], rfl, .nil⟩
  | cons hplace _ ih =>
      obtain ⟨value, rfl, hvalue⟩ := hplace
      obtain ⟨values, rfl, hvalues⟩ := ih
      exact ⟨value :: values, rfl, .cons hvalue hvalues⟩

section Ended

variable (hs : Sound w s) (hended : s.ended w = true) (herror : s.error = none)

include hs hended herror

theorem Sound.ended_place {i : Nat} (hi : i < w.kernels.length) :
    ∃ result, w.Yields i result ∧ s.results[i]? = some (some result) ∧
      (i, result) ∈ s.reported := by
  have hearned : s.error ≠ none ∨ _ := hs.earned i .finished (finished_of_ended hended hi)
  exact hearned.resolve_left fun hne => hne herror

theorem Sound.ended_results :
    ∃ results, s.results = results.map some ∧
      List.Forall₂ (fun kernel result => kernel.outcome w.config = .ok result)
        w.kernels results := by
  have hplaces : List.Forall₂ (fun kernel place => ∃ result, place = some result ∧
      kernel.outcome w.config = .ok result) w.kernels s.results := by
    refine List.forall₂_iff_get.mpr ⟨hs.results_length.symm, ?_⟩
    intro i hi hi'
    obtain ⟨result, ⟨kernel, hkernel, houtcome⟩, hplace, _⟩ := hs.ended_place hended herror hi
    obtain ⟨_, hkernel⟩ := List.getElem?_eq_some_iff.mp hkernel
    obtain ⟨_, hplace⟩ := List.getElem?_eq_some_iff.mp hplace
    exact ⟨result, hplace, by rw [List.get_eq_getElem, hkernel, houtcome]⟩
  exact exists_map_some hplaces

theorem Sound.ended_reported :
    (s.reported.map Prod.fst).Perm (List.range w.kernels.length) := by
  refine (List.perm_ext_iff_of_nodup hs.nodup List.nodup_range).mpr ?_
  intro i
  rw [List.mem_range]
  constructor
  · intro hi
    obtain ⟨⟨i, result⟩, hmem, rfl⟩ := List.mem_map.mp hi
    obtain ⟨⟨kernel, hkernel, _⟩, _⟩ := hs.reported i result hmem
    exact (List.getElem?_eq_some_iff.mp hkernel).1
  · intro hi
    obtain ⟨result, _, _, hmem⟩ := hs.ended_place hended herror hi
    exact List.mem_map.mpr ⟨(i, result), hmem, rfl⟩

/-- A batch without an error returns what compiling its kernels one by one returns. -/
theorem Sound.ended_ok (verbosity : Int) (id : String) :
    ∃ results, s.returned = .ok (results.map some) ∧
      List.Forall₂ (fun kernel result => kernel.outcome w.config = .ok result)
        w.kernels results ∧
      (s.reported.map Prod.fst).Perm (List.range w.kernels.length) ∧
      (Batch.run verbosity false id w.config w.kernels).1 = .ok results := by
  obtain ⟨results, hresults, hall⟩ := hs.ended_results hended herror
  refine ⟨results, ?_, hall, hs.ended_reported hended herror, ?_⟩
  · simp [returned, herror, hresults]
  · rw [run_eq, compileAll_of_ok hall]
    rfl

end Ended

theorem Sound.returned_error (hs : Sound w s) {e : BatchError} (herror : s.error = some e)
    (verbosity : Int) (id : String) :
    ∃ (i : Nat) (kernel : Kernel) (c : CompileError), s.returned = .error (.kernel c) ∧
      w.kernels[i]? = some kernel ∧ kernel.outcome w.config = .error c ∧
      (w.config.workers = 1 →
        (∀ j < i, ∀ earlier, w.kernels[j]? = some earlier →
          ∃ result, earlier.outcome w.config = .ok result) ∧
        (Batch.run verbosity false id w.config w.kernels).1 = .error (.kernel c)) := by
  obtain ⟨i, c, rfl, ⟨kernel, hkernel, houtcome⟩, hfirst⟩ := hs.blamed e herror
  refine ⟨i, kernel, c, by simp [returned, herror], hkernel, houtcome, ?_⟩
  intro hone
  have hbefore : ∀ j < i, ∀ earlier, w.kernels[j]? = some earlier →
      ∃ result, earlier.outcome w.config = .ok result := by
    intro j hj earlier hearlier
    obtain ⟨result, kernel', hkernel', hresult⟩ := hfirst hone j hj
    cases hearlier.symm.trans hkernel'
    exact ⟨result, hresult⟩
  refine ⟨hbefore, ?_⟩
  rw [run_eq, compileAll_of_error hkernel houtcome hbefore]
  rfl

/-- In whatever order the workers of a batch take turns: the batch ends after a bounded number of
turns and cannot get stuck before; what is reported as done is reported once and is what its kernel
compiles to by itself; and in the end the batch returns all results in the order of its kernels, or
the error of a kernel that does not compile. -/
theorem batch_agrees (w : Workload) (hworkers : w.config.workers ≠ 0) (verbosity : Int)
    (id : String) (schedule : List Turn) (s : Pool) (hrun : run w (start w) schedule = some s) :
    (schedule.length ≤ 6 * w.kernels.length ∧
      (s.ended w = false → ∃ turn, (s.step w turn).isSome = true)) ∧
    ((s.reported.map Prod.fst).Nodup ∧
      ∀ i result, (i, result) ∈ s.reported →
        ∃ kernel, w.kernels[i]? = some kernel ∧ w.alone verbosity id kernel = .ok result) ∧
    (s.ended w = true →
      ((∀ kernel ∈ w.kernels, ∃ result, w.alone verbosity id kernel = .ok result) →
        ∃ results, s.returned = .ok (results.map some) ∧
          List.Forall₂ (fun kernel result => w.alone verbosity id kernel = .ok result)
            w.kernels results ∧
          (s.reported.map Prod.fst).Perm (List.range w.kernels.length) ∧
          (Batch.run verbosity false id w.config w.kernels).1 = .ok results) ∧
      ((∃ kernel ∈ w.kernels, ∃ e, w.alone verbosity id kernel = .error e) →
        ∃ (i : Nat) (kernel : Kernel) (e : CompileError), s.returned = .error (.kernel e) ∧
          w.kernels[i]? = some kernel ∧ w.alone verbosity id kernel = .error e ∧
          (∀ name, e ≠ .cancelled name) ∧
          (w.config.workers = 1 →
            (∀ j < i, ∀ earlier, w.kernels[j]? = some earlier →
              ∃ result, w.alone verbosity id earlier = .ok result) ∧
            (Batch.run verbosity false id w.config w.kernels).1 = .error (.kernel e)))) := by
  have hs : Sound w s := (sound_start w).run hrun
  have halone : ∀ kernel, w.alone verbosity id kernel = kernel.outcome w.config :=
    compile_never verbosity id w.config
  simp only [halone]
  refine ⟨⟨?_, hs.step_possible hworkers⟩, ⟨hs.nodup, ?_⟩, ?_⟩
  · simpa [remaining, start] using length_le_remaining hrun
  · intro i result hmem
    exact (hs.reported i result hmem).1
  intro hended
  cases herror : s.error with
  | none =>
      constructor
      · intro _
        exact hs.ended_ok hended herror verbosity id
      · rintro ⟨kernel, hkernel, e, he⟩
        obtain ⟨i, hi⟩ := List.mem_iff_getElem?.mp hkernel
        obtain ⟨result, hyields, _⟩ :=
          hs.ended_place hended herror (List.getElem?_eq_some_iff.mp hi).1
        exact absurd ⟨kernel, hi, he⟩ hyields.not_fails
  | some e =>
      obtain ⟨i, kernel, c, hreturned, hkernel, houtcome, hfirst⟩ :=
        hs.returned_error herror verbosity id
      constructor
      · intro hall
        obtain ⟨result, hresult⟩ := hall kernel (List.mem_of_getElem? hkernel)
        rw [houtcome] at hresult
        cases hresult
      · intro _
        refine ⟨i, kernel, c, hreturned, hkernel, houtcome, ?_, hfirst⟩
        rintro name rfl
        exact kernel.outcome_ne_cancelled w.config name houtcome

/-- Three kernels on two slots, of which only the first compiles. -/
def faulty : Workload where
  config := { workers := 2 }
  kernels := [{ name := "sum", target := "gfx1100" }, { name := "scan", target := "gfx7" },
    { name := "sort", target := "gfx8" }]

/-- The second kernel fails and cancels the first, which is compiling, and the third, which has yet
to be launched. -/
def faultySchedule : List Turn :=
  [.launch, .launch, .work 0, .work 1, .work 1, .work 1, .work 1, .work 0 (some 0), .work 1,
    .launch, .work 2, .work 2, .work 0, .work 2, .work 0]

theorem batch_agrees_faulty :
    ∃ s, run faulty (start faulty) faultySchedule = some s ∧ s.ended faulty = true ∧
      s.returned = .error (.kernel (.target "scan" (.unknownProcessor "gfx7"))) ∧
      ∃ (i : Nat) (kernel : Kernel) (e : CompileError), s.returned = .error (.kernel e) ∧
        faulty.kernels[i]? = some kernel ∧ faulty.alone 3 "b" kernel = .error e := by
  refine ⟨_, rfl, rfl, rfl, ?_⟩
  obtain ⟨i, kernel, e, hreturned, hkernel, herror, _⟩ :=
    ((batch_agrees faulty (by decide) 3 "b" faultySchedule _ rfl).2.2 rfl).2
      ⟨{ name := "scan", target := "gfx7" }, by simp [faulty], _, rfl⟩
  exact ⟨i, kernel, e, hreturned, hkernel, herror⟩

end Pool

end Interlock.Batch
