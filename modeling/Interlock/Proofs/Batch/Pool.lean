import Interlock.Batch.Pool
import Interlock.Proofs.Compilation
import Interlock.Proofs.Word

/-! # What the workers of a batch keep true

A turn is either a launch or one of a few moves of one worker. The moves are listed once, as a
relation; what every reachable pool has in common, that a schedule cannot go on for ever, and that
it cannot come to a halt before the batch has ended all follow from that list.
-/

namespace Interlock.Batch

/-- The kernel at a position compiles to a result. -/
def Workload.Yields (w : Workload) (i : Nat) (result : CompiledKernel) : Prop :=
  ∃ kernel, w.kernels[i]? = some kernel ∧ kernel.outcome w.config = .ok result

/-- The kernel at a position does not compile. -/
def Workload.Fails (w : Workload) (i : Nat) (e : CompileError) : Prop :=
  ∃ kernel, w.kernels[i]? = some kernel ∧ kernel.outcome w.config = .error e

theorem Workload.Yields.not_fails {w : Workload} {i : Nat} {result : CompiledKernel}
    {e : CompileError} (h : w.Yields i result) : ¬ w.Fails i e := by
  rintro ⟨kernel, hkernel, herror⟩
  obtain ⟨kernel', hkernel', hresult⟩ := h
  rw [hkernel, Option.some.injEq] at hkernel'
  rw [← hkernel', herror] at hresult
  cases hresult

namespace Pool

variable {w : Workload} {s s' : Pool} {i : Nat} {phase phase' : Phase}

/-- The moves of the worker at a position, from one phase to another. A worker that is told of a
cancellation fails like one whose kernel does not compile. -/
inductive Moves (w : Workload) (s : Pool) (i : Nat) : Phase → Phase → Pool → Prop
  | refused (hcancelled : s.cancelled = true) :
      Moves w s i .launched (.failed .cancelled) (s.move i (.failed .cancelled))
  | begun : Moves w s i .launched .compiling (s.move i .compiling)
  | compiled {result : CompiledKernel} (hyields : w.Yields i result) :
      Moves w s i .compiling (.compiled result) (s.move i (.compiled result))
  | broken {e : CompileError} (hfails : w.Fails i e) :
      Moves w s i .compiling (.failed (.kernel e)) (s.move i (.failed (.kernel e)))
  | interrupted {e : CompileError} (hcancelled : s.cancelled = true) :
      Moves w s i .compiling (.failed (.kernel e)) (s.move i (.failed (.kernel e)))
  | stored {result : CompiledKernel} :
      Moves w s i (.compiled result) (.stored result)
        { s.move i (.stored result) with results := s.results.set i (some result) }
  | reported {result : CompiledKernel} :
      Moves w s i (.stored result) .returning
        { s.move i .returning with reported := s.reported ++ [(i, result)] }
  | recorded {e : BatchError} (hfirst : s.error = none) :
      Moves w s i (.failed e) .recorded { s.move i .recorded with error := some e }
  | overruled {e : BatchError} (herror : s.error ≠ none) :
      Moves w s i (.failed e) .returning (s.move i .returning)
  | cancelled : Moves w s i .recorded .returning { s.move i .returning with cancelled := true }
  | left : Moves w s i .returning .finished (s.move i .finished)

theorem moves_of_work {stop : Option Nat} (h : s.work w i stop = some s') :
    ∃ phase phase', s.workers[i]? = some phase ∧ Moves w s i phase phase' s' := by
  unfold work at h
  cases hphase : s.workers[i]? with
  | none => simp [hphase] at h
  | some phase =>
      cases phase with
      | launched =>
          simp only [hphase, Option.some.injEq] at h
          subst h
          cases hcancelled : s.cancelled with
          | true => exact ⟨_, _, rfl, .refused hcancelled⟩
          | false => exact ⟨_, _, rfl, .begun⟩
      | compiling =>
          simp only [hphase, Option.ite_none_right_eq_some, Option.map_eq_some_iff] at h
          obtain ⟨htold, kernel, hkernel, rfl⟩ := h
          rcases compile_outcome w.verbosity (answers stop) (w.ids i) w.config kernel with
            ⟨hresult, n, hn⟩ | hresult
          · -- a compilation that gives up was told to
            have hcancelled : s.cancelled = true := by
              cases stop with
              | none => cases hn
              | some n => simpa using htold
            rw [hresult]
            exact ⟨_, _, rfl, .interrupted hcancelled⟩
          · rw [hresult]
            cases houtcome : kernel.outcome w.config with
            | ok result => exact ⟨_, _, rfl, .compiled ⟨kernel, hkernel, houtcome⟩⟩
            | error e => exact ⟨_, _, rfl, .broken ⟨kernel, hkernel, houtcome⟩⟩
      | compiled result =>
          simp only [hphase, Option.some.injEq] at h
          subst h
          exact ⟨_, _, rfl, .stored⟩
      | stored result =>
          simp only [hphase, Option.some.injEq] at h
          subst h
          exact ⟨_, _, rfl, .reported⟩
      | failed e =>
          cases herror : s.error with
          | none =>
              simp only [hphase, herror, Option.some.injEq] at h
              subst h
              exact ⟨_, _, rfl, .recorded herror⟩
          | some first =>
              simp only [hphase, herror, Option.ite_none_right_eq_some, Option.some.injEq] at h
              obtain ⟨_, rfl⟩ := h
              exact ⟨_, _, rfl, .overruled (by simp [herror])⟩
      | recorded =>
          simp only [hphase, Option.some.injEq] at h
          subst h
          exact ⟨_, _, rfl, .cancelled⟩
      | returning =>
          simp only [hphase, Option.some.injEq] at h
          subst h
          exact ⟨_, _, rfl, .left⟩
      | finished => simp [hphase] at h

theorem Moves.workers (h : Moves w s i phase phase' s') : s'.workers = s.workers.set i phase' := by
  cases h <;> rfl

/-- What a move of one worker leaves to all others. -/
structure Leaves (i : Nat) (s s' : Pool) : Prop where
  error : s.error ≠ none → s'.error = s.error
  cancelled : s.cancelled = true → s'.cancelled = true
  results : ∀ j ≠ i, s'.results[j]? = s.results[j]?
  reported : s.reported ⊆ s'.reported

theorem Moves.leaves (h : Moves w s i phase phase' s') : Leaves i s s' := by
  cases h with
  | stored =>
      refine ⟨fun _ => rfl, id, fun j hj => ?_, fun _ => id⟩
      exact List.getElem?_set_ne (Ne.symm hj)
  | reported => exact ⟨fun _ => rfl, id, fun _ _ => rfl, List.subset_append_left _ _⟩
  | recorded hfirst => exact ⟨fun h => absurd hfirst h, id, fun _ _ => rfl, fun _ => id⟩
  | cancelled => exact ⟨fun _ => rfl, fun _ => rfl, fun _ _ => rfl, fun _ => id⟩
  | refused | begun | compiled | broken | interrupted | overruled | left =>
      exact ⟨fun _ => rfl, id, fun _ _ => rfl, fun _ => id⟩

/-! ## What holds of every reachable pool -/

/-- What a worker has to show for its phase. -/
def Earned (w : Workload) (s : Pool) (i : Nat) : Phase → Prop
  | .launched | .compiling => True
  | .compiled result => w.Yields i result
  | .stored result => w.Yields i result ∧ s.results[i]? = some (some result)
  | .failed e => (∃ c, e = .kernel c ∧ w.Fails i c) ∨ s.cancelled = true
  | .recorded => s.error ≠ none
  | .returning | .finished =>
    s.error ≠ none ∨
      ∃ result, w.Yields i result ∧ s.results[i]? = some (some result) ∧ (i, result) ∈ s.reported

/-- An error that may stand for the batch: that of a kernel which does not compile and, where the
workers are launched one by one, of the first such kernel. -/
def Blamed (w : Workload) (e : BatchError) : Prop :=
  ∃ i c, e = .kernel c ∧ w.Fails i c ∧
    (w.config.workers = 1 → ∀ j < i, ∃ result, w.Yields j result)

/-- What every pool that a schedule leads to has in common. -/
structure Sound (w : Workload) (s : Pool) : Prop where
  workers_le : s.workers.length ≤ w.kernels.length
  results_length : s.results.length = w.kernels.length
  earned : ∀ i phase, s.workers[i]? = some phase → s.Earned w i phase
  reported : ∀ i result, (i, result) ∈ s.reported →
    w.Yields i result ∧ (s.workers[i]? = some .returning ∨ s.workers[i]? = some .finished)
  nodup : (s.reported.map Prod.fst).Nodup
  /-- An error is recorded before the batch is cancelled. -/
  cancelled_error : s.cancelled = true → s.error ≠ none
  /-- A batch with an error is cancelled, or somebody is about to cancel it. -/
  error_cancelled : s.error ≠ none → s.cancelled = true ∨ ∃ i : Nat, s.workers[i]? = some .recorded
  blamed : ∀ e, s.error = some e → Blamed w e
  /-- A single slot is free only when everybody before has left. -/
  alone : w.config.workers = 1 → ∀ j, j + 1 < s.workers.length → s.workers[j]? = some .finished

theorem sound_start (w : Workload) : Sound w (start w) where
  workers_le := Nat.zero_le _
  results_length := List.length_replicate
  earned i phase h := by simp [start] at h
  reported i result h := by simp [start] at h
  nodup := List.nodup_nil
  cancelled_error h := by simp [start] at h
  error_cancelled h := by simp [start] at h
  blamed e h := by simp [start] at h
  alone _ j h := by simp [start] at h

theorem Earned.of_leaves (hleaves : Leaves i s s') {j : Nat} (hj : j ≠ i)
    (h : s.Earned w j phase) : s'.Earned w j phase := by
  have herror : s.error ≠ none → s'.error ≠ none := by
    intro hne
    rw [hleaves.error hne]
    exact hne
  have hdone : (s.error ≠ none ∨ ∃ result, w.Yields j result ∧
      s.results[j]? = some (some result) ∧ (j, result) ∈ s.reported) →
      s'.error ≠ none ∨ ∃ result, w.Yields j result ∧
        s'.results[j]? = some (some result) ∧ (j, result) ∈ s'.reported := by
    rintro (hne | ⟨result, hyields, hresult, hreported⟩)
    · exact Or.inl (herror hne)
    · refine Or.inr ⟨result, hyields, ?_, hleaves.reported hreported⟩
      rwa [hleaves.results j hj]
  cases phase with
  | launched | compiling => trivial
  | compiled result => exact h
  | stored result => exact ⟨h.1, by rw [hleaves.results j hj]; exact h.2⟩
  | failed e => exact h.imp id hleaves.cancelled
  | recorded => exact herror h
  | returning => exact hdone h
  | finished => exact hdone h

theorem Moves.earned (h : Moves w s i phase phase' s')
    (hlength : s.results.length = w.kernels.length) (hearned : s.Earned w i phase) :
    s'.Earned w i phase' := by
  cases h with
  | refused hcancelled => exact Or.inr hcancelled
  | begun => trivial
  | compiled hyields => exact hyields
  | broken hfails => exact Or.inl ⟨_, rfl, hfails⟩
  | interrupted hcancelled => exact Or.inr hcancelled
  | stored =>
      obtain ⟨kernel, hkernel, houtcome⟩ := hearned
      have hi : i < s.results.length := hlength ▸ (List.getElem?_eq_some_iff.mp hkernel).1
      exact ⟨⟨kernel, hkernel, houtcome⟩, List.getElem?_set_self hi⟩
  | reported => exact Or.inr ⟨_, hearned.1, hearned.2, by simp⟩
  | recorded hfirst => simp [Earned]
  | overruled herror => exact Or.inl herror
  | cancelled => exact Or.inl hearned
  | left => exact hearned

theorem Moves.not_finished (h : Moves w s i phase phase' s') : phase ≠ .finished := by
  rintro rfl
  cases h

section Step

variable (hs : Sound w s) (hphase : s.workers[i]? = some phase) (h : Moves w s i phase phase' s')

include hphase h

theorem Moves.getElem?_workers (j : Nat) :
    s'.workers[j]? = if j = i then some phase' else s.workers[j]? := by
  have hi : i < s.workers.length := (List.getElem?_eq_some_iff.mp hphase).1
  rw [h.workers, List.getElem?_set]
  grind

include hs

theorem Sound.move_reported (j : Nat) (result : CompiledKernel) (hj : (j, result) ∈ s'.reported) :
    w.Yields j result ∧ (s'.workers[j]? = some .returning ∨ s'.workers[j]? = some .finished) := by
  -- whoever reported before has at most given back its slot since
  have hbefore : (j, result) ∈ s.reported → w.Yields j result ∧
      (s'.workers[j]? = some .returning ∨ s'.workers[j]? = some .finished) := by
    intro hold
    obtain ⟨hyields, hleaving⟩ := hs.reported j result hold
    refine ⟨hyields, ?_⟩
    rw [h.getElem?_workers hphase]
    by_cases hji : j = i
    · subst hji
      rw [if_pos rfl]
      rw [hphase] at hleaving
      rcases hleaving with hreturning | hfinished
      · cases hreturning
        cases h
        exact Or.inr rfl
      · cases hfinished
        exact absurd rfl h.not_finished
    · rw [if_neg hji]
      exact hleaving
  cases h with
  | reported =>
      rcases List.mem_append.mp hj with hold | hnew
      · exact hbefore hold
      · cases List.mem_singleton.mp hnew
        refine ⟨(hs.earned i _ hphase).1, Or.inl ?_⟩
        exact List.getElem?_set_self (List.getElem?_eq_some_iff.mp hphase).1
  | _ => exact hbefore hj

theorem Sound.move_nodup : (s'.reported.map Prod.fst).Nodup := by
  cases h with
  | reported =>
      rw [List.map_append, List.map_singleton, List.nodup_append]
      refine ⟨hs.nodup, List.nodup_singleton i, ?_⟩
      intro j hj k hk
      obtain ⟨⟨j', result⟩, hmem, rfl⟩ := List.mem_map.mp hj
      rw [List.mem_singleton.mp hk]
      rintro rfl
      have hleaving := (hs.reported _ _ hmem).2
      simp [hphase] at hleaving
  | _ => exact hs.nodup

theorem Sound.move_cancelled_error (hcancelled : s'.cancelled = true) : s'.error ≠ none := by
  cases h with
  | recorded hfirst => simp
  | cancelled => exact hs.earned i _ hphase
  | _ => exact hs.cancelled_error hcancelled

theorem Sound.move_error_cancelled (herror : s'.error ≠ none) :
    s'.cancelled = true ∨ ∃ j : Nat, s'.workers[j]? = some .recorded := by
  have hkept : phase ≠ .recorded → s.error ≠ none →
      s.cancelled = true ∨ ∃ j : Nat, s'.workers[j]? = some .recorded := by
    intro hne herror
    refine (hs.error_cancelled herror).imp_right ?_
    rintro ⟨j, hj⟩
    refine ⟨j, ?_⟩
    rw [h.getElem?_workers hphase, if_neg, hj]
    rintro rfl
    rw [hphase] at hj
    exact hne (Option.some.inj hj)
  cases h with
  | recorded hfirst =>
      exact Or.inr ⟨i, List.getElem?_set_self (List.getElem?_eq_some_iff.mp hphase).1⟩
  | cancelled => exact Or.inl rfl
  | _ => exact hkept (by simp) herror

theorem Sound.move_blamed (e : BatchError) (he : s'.error = some e) : Blamed w e := by
  cases h with
  | recorded hfirst =>
      cases he
      -- without an error nothing was cancelled, so that the kernel itself is at fault
      have hgoes : s.cancelled ≠ true := fun hcancelled => hs.cancelled_error hcancelled hfirst
      obtain ⟨c, rfl, hfails⟩ := (hs.earned i _ hphase).resolve_right hgoes
      refine ⟨i, c, rfl, hfails, ?_⟩
      intro hone j hj
      have hi : i < s.workers.length := (List.getElem?_eq_some_iff.mp hphase).1
      have hfinished := hs.alone hone j (by omega)
      have hearned : s.error ≠ none ∨ _ := hs.earned j .finished hfinished
      obtain ⟨result, hyields, _⟩ := hearned.resolve_left (fun hne => hne hfirst)
      exact ⟨result, hyields⟩
  | _ => exact hs.blamed e he

theorem Sound.move : Sound w s' where
  workers_le := by
    rw [h.workers, List.length_set]
    exact hs.workers_le
  results_length := by
    have hlength := hs.results_length
    cases h with
    | stored => exact List.length_set.trans hlength
    | _ => exact hlength
  earned j phase₂ hj := by
    rw [h.getElem?_workers hphase] at hj
    split at hj
    next hji =>
      cases hj
      rw [hji]
      exact h.earned hs.results_length (hs.earned i phase hphase)
    next hji => exact (hs.earned j phase₂ hj).of_leaves h.leaves hji
  reported := hs.move_reported hphase h
  nodup := hs.move_nodup hphase h
  cancelled_error := hs.move_cancelled_error hphase h
  error_cancelled := hs.move_error_cancelled hphase h
  blamed := hs.move_blamed hphase h
  alone hone j hj := by
    rw [h.workers, List.length_set] at hj
    have hfinished := hs.alone hone j hj
    rw [h.getElem?_workers hphase, if_neg, hfinished]
    rintro rfl
    rw [hphase] at hfinished
    exact h.not_finished (Option.some.inj hfinished)

end Step

theorem launch_eq_some (h : s.launch w = some s') :
    s.workers.length < w.kernels.length ∧ s.hasSlot w = true ∧
      s' = { s with workers := s.workers ++ [.launched] } := by
  simp only [launch, Option.ite_none_right_eq_some, Option.some.injEq] at h
  exact ⟨h.1.1, h.1.2, h.2.symm⟩

theorem all_finished_of_hasSlot (hone : w.config.workers = 1) (hslot : s.hasSlot w = true) :
    ∀ phase ∈ s.workers, phase = .finished := by
  have hactive : s.active = 0 := by
    simp only [hasSlot, hone, Bool.or_eq_true, decide_eq_true_eq] at hslot
    rcases hslot with hnegative | hfree
    · exact absurd hnegative (by decide)
    · have hlt : (s.active : Int) < 1 := hfree
      omega
  intro phase hphase
  have hfinished := List.countP_eq_zero.mp hactive phase hphase
  cases phase with
  | finished => rfl
  | _ => simp [Phase.isFinished] at hfinished

theorem Sound.launch (hs : Sound w s) (h : s.launch w = some s') : Sound w s' := by
  obtain ⟨hlength, hslot, rfl⟩ := launch_eq_some h
  have hkept : ∀ {j : Nat} {phase : Phase}, s.workers[j]? = some phase →
      (s.workers ++ [.launched])[j]? = some phase := by
    intro j phase hj
    rw [List.getElem?_append_left (List.getElem?_eq_some_iff.mp hj).1, hj]
  exact
    { workers_le := by simpa using hlength
      results_length := hs.results_length
      earned := by
        intro j phase hj
        rw [List.getElem?_append] at hj
        split at hj
        · exact hs.earned j phase hj
        · cases List.mem_singleton.mp (List.mem_of_getElem? hj)
          trivial
      reported := by
        intro j result hj
        obtain ⟨hyields, hleaving⟩ := hs.reported j result hj
        exact ⟨hyields, hleaving.imp hkept hkept⟩
      nodup := hs.nodup
      cancelled_error := hs.cancelled_error
      error_cancelled := by
        intro herror
        refine (hs.error_cancelled herror).imp_right ?_
        rintro ⟨j, hj⟩
        exact ⟨j, hkept hj⟩
      blamed := hs.blamed
      alone := by
        intro hone j hj
        have hj' : j < s.workers.length := by simpa using hj
        have hfinished := all_finished_of_hasSlot hone hslot _ (List.getElem_mem hj')
        exact hkept (List.getElem?_eq_some_iff.mpr ⟨hj', hfinished⟩) }

theorem Sound.step (hs : Sound w s) {turn : Turn} (h : s.step w turn = some s') : Sound w s' := by
  cases turn with
  | launch => exact hs.launch h
  | work i stop =>
      obtain ⟨phase, phase', hphase, hmoves⟩ := moves_of_work h
      exact hs.move hphase hmoves

theorem Sound.run (hs : Sound w s) {schedule : List Turn} (h : Pool.run w s schedule = some s') :
    Sound w s' := by
  induction schedule generalizing s with
  | nil => exact Option.some.inj h ▸ hs
  | cons turn rest ih =>
      unfold Pool.run at h
      cases hstep : s.step w turn with
      | none => simp [hstep] at h
      | some next =>
          simp only [hstep] at h
          exact ih (hs.step hstep) h

/-! ## Schedules end -/

end Pool

/-- The number of moves that a worker has before it. -/
def Phase.remaining : Phase → Nat
  | launched => 5
  | compiling => 4
  | compiled _ | failed _ => 3
  | stored _ | recorded => 2
  | returning => 1
  | finished => 0

namespace Pool

variable {w : Workload} {s s' : Pool} {i : Nat} {phase phase' : Phase}

/-- The number of turns that a pool has before it, at most. -/
def remaining (w : Workload) (s : Pool) : Nat :=
  6 * (w.kernels.length - s.workers.length) + (s.workers.map Phase.remaining).sum

theorem Moves.remaining_lt (h : Moves w s i phase phase' s') :
    phase'.remaining < phase.remaining := by
  cases h <;> simp [Phase.remaining]

theorem sum_remaining_set {phases : List Phase} (hphase : phases[i]? = some phase)
    (phase' : Phase) :
    ((phases.set i phase').map Phase.remaining).sum + phase.remaining =
      (phases.map Phase.remaining).sum + phase'.remaining := by
  induction phases generalizing i with
  | nil => simp at hphase
  | cons first rest ih =>
      cases i with
      | zero =>
          cases hphase
          simp only [List.set_cons_zero, List.map_cons, List.sum_cons]
          omega
      | succ i =>
          have hrest := ih hphase
          simp only [List.set_cons_succ, List.map_cons, List.sum_cons]
          omega

theorem remaining_step {turn : Turn} (h : s.step w turn = some s') :
    s'.remaining w < s.remaining w := by
  cases turn with
  | launch =>
      obtain ⟨hlength, _, rfl⟩ := launch_eq_some h
      simp only [remaining, List.length_append, List.length_singleton, List.map_append,
        List.map_singleton, List.sum_append, List.sum_singleton, Phase.remaining]
      omega
  | work i stop =>
      obtain ⟨phase, phase', hphase, hmoves⟩ := moves_of_work h
      have hlt := hmoves.remaining_lt
      have hsum := sum_remaining_set hphase phase'
      rw [remaining, remaining, hmoves.workers, List.length_set]
      omega

theorem length_le_remaining {schedule : List Turn} (h : run w s schedule = some s') :
    schedule.length ≤ s.remaining w := by
  induction schedule generalizing s with
  | nil => exact Nat.zero_le _
  | cons turn rest ih =>
      unfold run at h
      cases hstep : s.step w turn with
      | none => simp [hstep] at h
      | some next =>
          simp only [hstep] at h
          have hlt := remaining_step hstep
          have hrest := ih h
          simp only [List.length_cons]
          omega

/-! ## Schedules do not get stuck -/

theorem Sound.work_possible (hs : Sound w s) (hphase : s.workers[i]? = some phase)
    (hunfinished : phase ≠ .finished) : ∃ turn, (s.step w turn).isSome = true := by
  have hi : i < w.kernels.length :=
    Nat.lt_of_lt_of_le (List.getElem?_eq_some_iff.mp hphase).1 hs.workers_le
  cases phase with
  | failed e =>
      cases herror : s.error with
      | none => exact ⟨.work i, by simp [Pool.step, work, hphase, herror]⟩
      | some first =>
          -- the error may be recorded and the batch not yet cancelled: then another worker is due
          rcases hs.error_cancelled (by simp [herror]) with hcancelled | ⟨j, hj⟩
          · exact ⟨.work i, by simp [Pool.step, work, hphase, herror, hcancelled]⟩
          · exact ⟨.work j, by simp [Pool.step, work, hj]⟩
  | compiling =>
      exact ⟨.work i, by simp [Pool.step, work, hphase, List.getElem?_eq_getElem hi]⟩
  | finished => exact absurd rfl hunfinished
  | launched | compiled | stored | recorded | returning =>
      exact ⟨.work i, by simp [Pool.step, work, hphase]⟩

theorem hasSlot_of_all_finished (hworkers : w.config.workers ≠ 0)
    (hfinished : ∀ phase ∈ s.workers, phase = .finished) : s.hasSlot w = true := by
  have hactive : s.active = 0 := by
    refine List.countP_eq_zero.mpr ?_
    intro phase hphase
    simp [hfinished phase hphase, Phase.isFinished]
  have hne : w.config.workers.toInt ≠ 0 := by
    intro hzero
    exact hworkers (Int64.toInt_inj.mp hzero)
  simp only [hasSlot, hactive, Bool.or_eq_true, decide_eq_true_eq, Int64.lt_iff_toInt_lt,
    Int64.toInt_zero]
  omega

/-- As long as a batch has not ended, somebody can move. -/
theorem Sound.step_possible (hs : Sound w s) (hworkers : w.config.workers ≠ 0)
    (hended : s.ended w = false) : ∃ turn, (s.step w turn).isSome = true := by
  by_cases hall : ∀ phase ∈ s.workers, phase = .finished
  · have hslot := hasSlot_of_all_finished hworkers hall
    have hlength : s.workers.length < w.kernels.length := by
      refine Nat.lt_of_le_of_ne hs.workers_le ?_
      intro heq
      have hfinished : s.workers.all Phase.isFinished = true := by
        refine List.all_eq_true.mpr ?_
        intro phase hphase
        rw [hall phase hphase]
        rfl
      simp [ended, heq, hfinished] at hended
    exact ⟨.launch, by simp [Pool.step, Pool.launch, hlength, hslot]⟩
  · push Not at hall
    obtain ⟨phase, hmem, hunfinished⟩ := hall
    obtain ⟨i, hphase⟩ := List.mem_iff_getElem?.mp hmem
    exact hs.work_possible hphase hunfinished

end Pool

end Interlock.Batch
