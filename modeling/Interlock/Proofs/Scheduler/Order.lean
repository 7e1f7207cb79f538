import Interlock.Proofs.Scheduler.Decision
import Interlock.Proofs.Scheduler.Failure

/-! # The order of the rules

Two schedulers for the same rules in different orders go through a stream alike: at every
instruction they decide on the same padding with the same comment, and their monitors and statistics
stay the same up to the order. Only the rule that is blamed for a failure depends on the order.
-/

namespace Interlock

theorem Stats.record_perm (stats : Stats) {d d' : Decision} (hpadding : d.padding = d'.padding)
    (hwinners : d.winners.Perm d'.winners) : stats.record d = stats.record d' := by
  have hcomm : RightCommutative fun (t : Tally) (r : Rule) => t.add r.name d'.padding :=
    ⟨fun t r r' => t.add_right_comm r.name r'.name _ _⟩
  unfold record
  rw [hpadding, hwinners.foldl_eq]

namespace Scheduler

/-- The schedulers have the same monitors, up to their order, and the same statistics. -/
structure Alike (s s' : Scheduler) : Prop where
  monitors : s.monitors.Perm s'.monitors
  stats : s.stats = s'.stats

theorem Alike.symm {s s' : Scheduler} (h : Alike s s') : Alike s' s :=
  ⟨h.monitors.symm, h.stats.symm⟩

/-! ## One step -/

section Step

variable {inst : Instruction} {monitors monitors' : List Monitor}

theorem decide_perm (hperm : monitors.Perm monitors') {d : Decision}
    (hd : decide inst {} monitors = .ok d) :
    ∃ d', decide inst {} monitors' = .ok d' ∧ d.padding = d'.padding ∧
      d.winners.Perm d'.winners := by
  have hasked := decide_asked hd
  have hpeeks : ∀ m ∈ monitors', ∃ owed, m.peek inst = .ok owed := by
    intro m hm
    obtain ⟨owed, howed, _⟩ := hasked.covers m (hperm.mem_iff.mpr hm)
    exact ⟨owed, howed⟩
  obtain ⟨d', hd'⟩ := exists_decide hpeeks {}
  -- Each of the two paddings is zero, or asked for and so covered by the other.
  have hle : ∀ {monitors monitors' : List Monitor} {d d' : Decision}, monitors.Perm monitors' →
      decide inst {} monitors = .ok d → decide inst {} monitors' = .ok d' →
      d.padding ≤ d'.padding := by
    intro monitors monitors' d d' hperm hd hd'
    obtain ⟨hnonneg, hcovers, _⟩ := decide_spec hd'
    rcases (decide_spec hd).2.2 with hzero | ⟨m, hm, hpeek⟩
    · rw [hzero]
      exact hnonneg
    · obtain ⟨owed, howed, howedLe⟩ := hcovers m (hperm.mem_iff.mp hm)
      rw [hpeek, Except.ok.injEq] at howed
      rwa [howed]
  have hpadding : d.padding = d'.padding :=
    Int64.le_antisymm (hle hperm hd hd') (hle hperm.symm hd' hd)
  refine ⟨d', hd', hpadding, ?_⟩
  rw [hasked.winners, (decide_asked hd').winners, hpadding]
  split
  · exact List.Perm.refl _
  · exact attaining_perm inst _ hperm

theorem commitAll_perm {padding : Int64} (hperm : monitors.Perm monitors') {next : List Monitor}
    (hnext : commitAll inst padding monitors = .ok next) :
    ∃ next', commitAll inst padding monitors' = .ok next' ∧ next.Perm next' := by
  obtain ⟨next', hcommit, hperm'⟩ :=
    List.perm_comp_forall₂ hperm.symm (commitAll_eq_ok_iff.mp hnext)
  exact ⟨next', commitAll_eq_ok_iff.mpr hcommit, hperm'.symm⟩

/-- A step that one of two like schedulers takes, the other takes as well. -/
theorem Alike.step {s s' next : Scheduler} (h : Alike s s') {position : Nat} {d : Decision}
    (hstep : s.step position inst = .ok (d, next)) :
    ∃ d' next', s'.step position inst = .ok (d', next') ∧ d.padding = d'.padding ∧
      d.comment = d'.comment ∧ Alike next next' := by
  rcases step_eq_ok hstep with
    ⟨hempty, rfl, rfl⟩ | ⟨hactive, hdefect, hdecide, monitors, hcommit, rfl⟩
  · have hempty' : s'.monitors = [] := by
      have hperm := h.monitors
      rw [hempty] at hperm
      exact hperm.nil_eq.symm
    refine ⟨{}, { s' with stats := s'.stats.record {} }, ?_, rfl, rfl, ?_⟩
    · simp [Scheduler.step, hempty']
    · exact ⟨h.monitors, congrArg (·.record {}) h.stats⟩
  · obtain ⟨d', hdecide', hpadding, hwinners⟩ := decide_perm h.monitors hdecide
    rw [hpadding] at hcommit
    obtain ⟨monitors', hcommit', hperm⟩ := commitAll_perm h.monitors hcommit
    have hactive' : s'.monitors ≠ [] := by
      intro hnil
      have hperm' := h.monitors
      rw [hnil] at hperm'
      exact hactive hperm'.eq_nil
    refine
      ⟨d', { s' with monitors := monitors', stats := s'.stats.record d' }, ?_, hpadding, ?_, ?_⟩
    · simp [Scheduler.step, hactive', hdefect, hdecide', hcommit']
    · rw [Decision.comment_eq, Decision.comment_eq, mergedComment_perm hwinners]
    · exact ⟨hperm, by rw [← h.stats]; exact s.stats.record_perm hpadding hwinners⟩

end Step

/-! ## A whole pass -/

/-- Two failures at one instruction, whoever is blamed for them, or none. -/
def FailAlike : Option ScheduleError → Option ScheduleError → Prop
  | none, none => True
  | some e, some e' => ∃ position inst rule cause rule' cause',
      e = .failed position inst rule cause ∧ e' = .failed position inst rule' cause'
  | _, _ => False

/-- The passes stand at the same place of the stream and handed out the same. -/
structure Pass.Alike {σ : Type} (pass pass' : Pass σ) : Prop where
  scheduler : Scheduler.Alike pass.scheduler pass'.scheduler
  state : pass.state = pass'.state
  pulled : pass.pulled = pass'.pulled
  failure : FailAlike pass.failure pass'.failure

theorem deliver_congr {σ : Type} (consume : Instruction → σ → ForInStep σ) {d d' : Decision}
    (hpadding : d.padding = d'.padding) (hcomment : d.comment = d'.comment) (inst : Instruction)
    (state : σ) : deliver consume d inst state = deliver consume d' inst state := by
  simp only [deliver, hpadding, hcomment]

theorem Pass.Alike.proceed {σ : Type} {consume : Instruction → σ → ForInStep σ}
    (report report' : Nat → Instruction → Decision → Scheduler → List String)
    {pass pass' : Pass σ} (h : pass.Alike pass') (stream : List Instruction) :
    (Scheduler.proceed report consume pass stream).Alike
      (Scheduler.proceed report' consume pass' stream) := by
  induction stream generalizing pass pass' with
  | nil => exact h
  | cons inst rest ih =>
      unfold Scheduler.proceed
      rw [← h.pulled, ← h.state]
      cases hstep : pass.scheduler.step pass.pulled inst with
      | error e =>
          cases hstep' : pass'.scheduler.step pass.pulled inst with
          | error e' =>
              obtain ⟨rule, cause, rfl⟩ := step_eq_error hstep
              obtain ⟨rule', cause', rfl⟩ := step_eq_error hstep'
              exact ⟨h.scheduler, rfl, rfl, _, _, _, _, _, _, rfl, rfl⟩
          | ok result' =>
              obtain ⟨_, _, hok, _⟩ := h.scheduler.symm.step hstep'
              rw [hstep] at hok
              contradiction
      | ok result =>
          obtain ⟨d, next⟩ := result
          obtain ⟨d', next', hstep', hpadding, hcomment, hnext⟩ := h.scheduler.step hstep
          simp only [hstep', ← deliver_congr consume hpadding hcomment]
          split
          · exact ⟨hnext, rfl, rfl, h.failure⟩
          · exact ih ⟨hnext, rfl, rfl, h.failure⟩

theorem Alike.new (target : Target) {rules rules' : List Rule} (hperm : rules.Perm rules')
    (disabled : List String) :
    Alike (Scheduler.new target rules disabled) (Scheduler.new target rules' disabled) :=
  ⟨(hperm.filter _).map _, rfl⟩

theorem Alike.run {σ : Type} {s s' : Scheduler} (h : Alike s s') (hs : s.consumed = false)
    (hs' : s'.consumed = false) (stream : List Instruction) (init : σ)
    (consume : Instruction → σ → ForInStep σ) :
    (s.run stream init consume).Alike (s'.run stream init consume) := by
  have hstart : @Pass.Alike σ { scheduler := s.started, state := init }
      { scheduler := s'.started, state := init } :=
    ⟨⟨h.monitors, h.stats⟩, rfl, rfl, trivial⟩
  simp only [Scheduler.run, runReporting, hs, hs']
  exact hstart.proceed _ _ stream

/-- The order in which rules are registered does not matter: two schedulers for the same rules
either hand out the same padded stream with the same statistics, or both fail at the same
instruction after having handed out the same. Neither does a consumer that stops early see a
difference. -/
theorem scheduled_order_irrelevant (target : Target) (rules rules' : List Rule)
    (hperm : rules.Perm rules') (stream : List Instruction) :
    let s := Scheduler.new target rules
    let s' := Scheduler.new target rules'
    ((∃ out, (s.scheduleAll stream).1 = .ok out ∧ (s'.scheduleAll stream).1 = .ok out ∧
          (s.scheduleAll stream).2.stats = (s'.scheduleAll stream).2.stats) ∨
        ∃ position inst rule rule' cause cause',
          (s.scheduleAll stream).1 = .error (.failed position inst rule cause) ∧
          (s'.scheduleAll stream).1 = .error (.failed position inst rule' cause') ∧
          (s.run stream #[] collect).state = (s'.run stream #[] collect).state) ∧
      ∀ (σ : Type) (init : σ) (consume : Instruction → σ → ForInStep σ),
        let pass := s.run stream init consume
        let pass' := s'.run stream init consume
        pass.state = pass'.state ∧ pass.pulled = pass'.pulled ∧
          pass.scheduler.stats = pass'.scheduler.stats ∧ FailAlike pass.failure pass'.failure := by
  intro s s'
  have halike : Alike s s' := Alike.new target hperm []
  refine ⟨?_, ?_⟩
  · obtain ⟨hscheduler, hstate, _, hfailure⟩ := halike.run rfl rfl stream #[] collect
    simp only [scheduleAll]
    cases hf : (s.run stream #[] collect).failure with
    | none =>
        cases hf' : (s'.run stream #[] collect).failure with
        | none =>
            refine Or.inl ⟨_, rfl, ?_, hscheduler.stats⟩
            rw [hstate]
        | some e' => simp [hf, hf', FailAlike] at hfailure
    | some e =>
        cases hf' : (s'.run stream #[] collect).failure with
        | none => simp [hf, hf', FailAlike] at hfailure
        | some e' =>
            rw [hf, hf'] at hfailure
            obtain ⟨position, inst, rule, cause, rule', cause', rfl, rfl⟩ := hfailure
            exact Or.inr ⟨position, inst, rule, rule', cause, cause', rfl, rfl, hstate⟩
  · intro σ init consume
    obtain ⟨hscheduler, hstate, hpulled, hfailure⟩ := halike.run rfl rfl stream init consume
    exact ⟨hstate, hpulled, hscheduler.stats, hfailure⟩

theorem scheduled_order_irrelevant_overwrittenResult :
    let rules := [Catalogue.write94x, Catalogue.readAddend94x, Catalogue.write94x]
    let rules' := [Catalogue.write94x, Catalogue.write94x, Catalogue.readAddend94x]
    rules.Perm rules' ∧
      ((Scheduler.new { family := .cdna3 } rules).run overwrittenResult #[] collect).state =
        ((Scheduler.new { family := .cdna3 } rules').run overwrittenResult #[] collect).state := by
  intro rules rules'
  have hperm : rules.Perm rules' := (List.Perm.swap _ _ _).cons _
  have hsame := (scheduled_order_irrelevant { family := .cdna3 } rules rules' hperm
    overwrittenResult).2 _ #[] collect
  exact ⟨hperm, hsame.1⟩

end Scheduler

end Interlock
