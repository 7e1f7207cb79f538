import Interlock.Proofs.Scheduler.History

/-! # Which instructions cannot be scheduled

A pass over the catalogue's rules ends early only at an instruction that is unsound in itself, or
that triggers an active rule without giving it a known latency class and registers to track. Windows
are never a reason: every reachable window can be judged, no judgement exceeds its window, and the
padding that was decided is enough for every monitor.
-/

namespace Interlock

namespace Rule

/-- The instruction triggers the rule, but does not give it what a window needs. -/
def Obstructs (r : Rule) (inst : Instruction) : Prop :=
  r.triggers inst = true ∧ (r.sizes.lookup? inst.passes = none ∨ r.trackedRegs inst = [])

/-- How the rule rejects an instruction that obstructs it: first of all, by its latency class. -/
def obstacle (r : Rule) (inst : Instruction) : RuleError :=
  if r.sizes.lookup? inst.passes = none then
    .missingSize r.name inst.passes inst.name.shown r.sizes
  else .untracked r.name inst.name.shown

theorem kind_obstacle (r : Rule) (inst : Instruction) :
    (r.obstacle inst).kind =
      if r.sizes.lookup? inst.passes = none then .invariant else .malformed := by
  unfold obstacle
  split <;> rfl

variable {r : Rule}

/-- A sound rule fails to open a window exactly where it is obstructed. -/
theorem Sound.opening_eq_error_iff (hr : r.Sound) {inst : Instruction} {e : RuleError} :
    r.opening inst = .error e ↔ r.Obstructs inst ∧ e = r.obstacle inst := by
  unfold opening Obstructs obstacle sizeFor
  rw [hr.lacksTrigger_eq_false inst]
  by_cases htriggers : r.triggers inst = true
  · cases hsize : r.sizes.lookup? inst.passes with
    | none =>
        simp [htriggers]
        exact eq_comm
    | some size =>
        by_cases hregs : r.trackedRegs inst = []
        · simp [htriggers, hregs]
          exact eq_comm
        · by_cases hzero : size = 0 <;> simp [htriggers, hregs, hzero]
  · simp [htriggers]

end Rule

namespace Scheduler

/-- The instruction is unsound, or obstructs one of the rules. -/
def Unschedulable (rules : List Rule) (inst : Instruction) : Prop :=
  inst.defect? ≠ none ∨ ∃ r ∈ rules, r.Obstructs inst

/-- Who is to blame for an instruction that cannot be scheduled: the instruction if it is unsound,
and otherwise the first rule that it obstructs. -/
def Blames (rules : List Rule) (inst : Instruction) (rule : String) (failure : StepFailure) :
    Prop :=
  (∃ defect, inst.defect? = some defect ∧ rule = "" ∧ failure = .malformed defect) ∨
    (inst.defect? = none ∧ ∃ before r after, rules = before ++ r :: after ∧
      (∀ other ∈ before, ¬ other.Obstructs inst) ∧ r.Obstructs inst ∧ rule = r.name ∧
      failure = .rejected (r.obstacle inst) ∧ (r.obstacle inst).kind =
        if r.sizes.lookup? inst.passes = none then .invariant else .malformed)

theorem Blames.unschedulable {rules : List Rule} {inst : Instruction} {rule : String}
    {failure : StepFailure} (h : Blames rules inst rule failure) : Unschedulable rules inst := by
  rcases h with ⟨defect, hdefect, _⟩ | ⟨_, before, r, after, rfl, _, hobstructs, _⟩
  · exact Or.inl (by simp [hdefect])
  · exact Or.inr ⟨r, by simp, hobstructs⟩

/-! ## One step -/

theorem exists_decide {inst : Instruction} {monitors : List Monitor}
    (h : ∀ m ∈ monitors, ∃ owed, m.peek inst = .ok owed) (d : Decision) :
    ∃ d', decide inst d monitors = .ok d' := by
  induction monitors generalizing d with
  | nil => exact ⟨d, rfl⟩
  | cons m rest ih =>
      obtain ⟨owed, howed⟩ := h m List.mem_cons_self
      simp only [decide, howed]
      exact ih (fun k hk => h k (List.mem_cons_of_mem m hk)) _

/-- A commit to all monitors succeeds, or fails at the first that cannot open its window. -/
theorem commitAll_cases {inst : Instruction} {padding : Int64} {monitors : List Monitor}
    (hsound : ∀ m ∈ monitors, m.rule.Sound)
    (hpeek : ∀ m ∈ monitors, ∃ owed, m.peek inst = .ok owed ∧ owed ≤ padding) :
    ((∃ next, commitAll inst padding monitors = .ok next) ∧
        ∀ m ∈ monitors, ¬ m.rule.Obstructs inst) ∨
      ∃ before m after, monitors = before ++ m :: after ∧
        (∀ k ∈ before, ¬ k.rule.Obstructs inst) ∧ m.rule.Obstructs inst ∧
        commitAll inst padding monitors = .error (m.rule.name, m.rule.obstacle inst) := by
  induction monitors with
  | nil => exact Or.inl ⟨⟨[], rfl⟩, by simp⟩
  | cons m rest ih =>
      obtain ⟨owed, howed, hle⟩ := hpeek m List.mem_cons_self
      have hcommit := Monitor.commit_of_peek howed hle
      have hm := hsound m List.mem_cons_self
      cases hopening : m.rule.opening inst with
      | error e =>
          right
          obtain ⟨hobstructs, rfl⟩ := hm.opening_eq_error_iff.mp hopening
          rw [hopening] at hcommit
          exact ⟨[], m, rest, rfl, by simp, hobstructs, by simp [commitAll, hcommit]⟩
      | ok opened =>
          have hfree : ¬ m.rule.Obstructs inst := by
            intro hobstructs
            have herror := hm.opening_eq_error_iff.mpr ⟨hobstructs, rfl⟩
            rw [hopening] at herror
            contradiction
          rw [hopening] at hcommit
          rcases ih (fun k hk => hsound k (List.mem_cons_of_mem m hk))
            (fun k hk => hpeek k (List.mem_cons_of_mem m hk)) with
            ⟨⟨next, hnext⟩, hall⟩ | ⟨before, k, after, rfl, hbefore, hk, herror⟩
          · refine Or.inl ⟨?_, List.forall_mem_cons.mpr ⟨hfree, hall⟩⟩
            simp only [commitAll, hcommit, hnext]
            exact ⟨_, rfl⟩
          · exact Or.inr ⟨m :: before, k, after, rfl, List.forall_mem_cons.mpr ⟨hfree, hbefore⟩, hk,
              by simp only [commitAll, hcommit, herror]⟩

section Step

variable {s : Scheduler} {history : List Issue}

/-- No question to a monitor fails. -/
theorem Remembers.exists_owed (h : s.Remembers history) (inst : Instruction) :
    ∀ m ∈ s.monitors, ∃ owed, m.peek inst = .ok owed := by
  intro m hm
  obtain ⟨hsound, hremembers⟩ := h m hm
  exact hsound.exists_peek (fun w hw => hremembers.admits hsound hw) inst

/-- A step succeeds on what is schedulable, and blames what is not. -/
theorem Remembers.step_cases (h : s.Remembers history) (hactive : s.monitors ≠ []) (position : Nat)
    (inst : Instruction) :
    ((∃ d next, s.step position inst = .ok (d, next)) ∧ ¬ Unschedulable s.rules inst) ∨
      ∃ rule failure, s.step position inst = .error (.failed position inst rule failure) ∧
        Blames s.rules inst rule failure := by
  have hnonempty : s.monitors.isEmpty = false := List.isEmpty_eq_false_iff.mpr hactive
  cases hdefect : inst.defect? with
  | some defect =>
      refine Or.inr ⟨"", .malformed defect, ?_, Or.inl ⟨defect, hdefect, rfl, rfl⟩⟩
      simp [Scheduler.step, hnonempty, hdefect]
  | none =>
      -- No question fails, so only the commits can, and they only where a window cannot be opened.
      obtain ⟨d, hdecide⟩ := exists_decide (h.exists_owed inst) {}
      rcases commitAll_cases (fun m hm => (h m hm).1) (decide_spec hdecide).2.1 with
        ⟨⟨next, hnext⟩, hfree⟩ | ⟨before, m, after, hsplit, hbefore, hm, herror⟩
      · refine Or.inl ⟨⟨d, { s with monitors := next, stats := s.stats.record d }, ?_⟩, ?_⟩
        · simp [Scheduler.step, hnonempty, hdefect, hdecide, hnext]
        · rintro (hunsound | ⟨r, hr, hobstructs⟩)
          · exact hunsound hdefect
          · obtain ⟨m, hm, rfl⟩ := List.mem_map.mp hr
            exact hfree m hm hobstructs
      · refine Or.inr ⟨m.rule.name, .rejected (m.rule.obstacle inst), ?_, Or.inr ⟨hdefect, ?_⟩⟩
        · simp [Scheduler.step, hnonempty, hdefect, hdecide, herror]
        · refine ⟨before.map (·.rule), m.rule, after.map (·.rule), ?_, ?_, hm, rfl, rfl,
            m.rule.kind_obstacle inst⟩
          · simp [rules, hsplit]
          · intro r hr
            obtain ⟨k, hk, rfl⟩ := List.mem_map.mp hr
            exact hbefore k hk

/-- Every open window can be judged, and no judgement exceeds it. -/
theorem Remembers.exists_judge (h : s.Remembers history) {m : Monitor} (hm : m ∈ s.monitors)
    {w : Window} (hw : w ∈ m.windows) (inst : Instruction) :
    ∃ need, m.rule.judge w inst = .ok need ∧ ∀ n ∈ need, 0 ≤ n ∧ n ≤ w.size := by
  obtain ⟨hsound, hremembers⟩ := h m hm
  obtain ⟨need, _, hjudge, hrange⟩ := hsound.check_eq (hremembers.admits hsound hw) inst
  exact ⟨need, hjudge, hrange⟩

/-- The decided padding is enough for every monitor. -/
theorem Remembers.commit_ne_underPadded (h : s.Remembers history) {inst : Instruction}
    {d : Decision} (hdecide : decide inst {} s.monitors = .ok d) {m : Monitor} (hm : m ∈ s.monitors)
    (rule name : String) (padding owed : Int64) :
    m.commit inst d.padding ≠ .error (.underPadded rule name padding owed) := by
  intro herror
  obtain ⟨asked, hpeek, hle⟩ := (decide_spec hdecide).2.1 m hm
  rw [Monitor.commit_of_peek hpeek hle] at herror
  cases hopening : m.rule.opening inst with
  | ok opened => simp [hopening] at herror
  | error e =>
      obtain ⟨_, rfl⟩ := (h m hm).1.opening_eq_error_iff.mp hopening
      simp only [hopening, Except.error.injEq] at herror
      unfold Rule.obstacle at herror
      split at herror <;> contradiction

end Step

/-! ## A whole pass -/

/-- However a pass ends, it leaves a scheduler that remembers a history. -/
theorem Remembers.plan_scheduler {s : Scheduler} {history : List Issue} (h : s.Remembers history)
    (position : Nat) (stream : List Instruction) :
    ∃ history', (s.plan position stream).scheduler.Remembers history' := by
  induction stream generalizing s history position with
  | nil => exact ⟨history, h⟩
  | cons inst rest ih =>
      unfold Scheduler.plan
      cases hstep : s.step position inst with
      | error e => exact ⟨history, h⟩
      | ok result => exact ih (h.step hstep) (position + 1)

/-- A pass ends early at the first instruction that is not schedulable, if there is one. -/
theorem Remembers.plan_cases {s : Scheduler} {history : List Issue} (h : s.Remembers history)
    (hactive : s.monitors ≠ []) (position : Nat) (stream : List Instruction) :
    ((s.plan position stream).failure = none ∧ ∀ inst ∈ stream, ¬ Unschedulable s.rules inst) ∨
      ∃ before inst after rule failure, stream = before ++ inst :: after ∧
        (∀ other ∈ before, ¬ Unschedulable s.rules other) ∧ Blames s.rules inst rule failure ∧
        (s.plan position stream).failure =
          some (.failed (position + before.length) inst rule failure) := by
  induction stream generalizing s history position with
  | nil => exact Or.inl ⟨rfl, by simp⟩
  | cons inst rest ih =>
      unfold Scheduler.plan
      rcases h.step_cases hactive position inst with
        ⟨⟨d, next, hstep⟩, hfree⟩ | ⟨rule, failure, hstep, hblames⟩
      · have hrules := step_rules hstep
        have hnext : next.monitors ≠ [] := by
          intro hnil
          rw [rules, rules, hnil] at hrules
          exact hactive (List.map_eq_nil_iff.mp hrules.symm)
        rcases ih (h.step hstep) hnext (position + 1) with
          ⟨hnone, hall⟩ | ⟨before, k, after, rule, failure, rfl, hbefore, hblames, hfailure⟩
        · rw [hrules] at hall
          left
          simp only [hstep]
          exact ⟨hnone, List.forall_mem_cons.mpr ⟨hfree, hall⟩⟩
        · rw [hrules] at hbefore hblames
          right
          simp only [hstep]
          refine ⟨inst :: before, k, after, rule, failure, rfl,
            List.forall_mem_cons.mpr ⟨hfree, hbefore⟩, hblames, ?_⟩
          rw [hfailure, List.length_cons, Nat.add_assoc, Nat.add_comm 1]
      · right
        simp only [hstep]
        exact ⟨[], inst, rest, rule, failure, rfl, by simp, hblames, rfl⟩

/-- Without rules nothing can fail. -/
theorem plan_of_idle {s : Scheduler} (hs : s.monitors = []) (position : Nat)
    (stream : List Instruction) : (s.plan position stream).failure = none := by
  induction stream generalizing s position with
  | nil => rfl
  | cons inst rest ih =>
      have hstep : s.step position inst = .ok ({}, { s with stats := s.stats.record {} }) := by
        simp [step, hs]
      simp only [plan, hstep]
      exact ih (s := { s with stats := s.stats.record {} }) hs (position + 1)

/-- With the catalogue's rules, a stream can be scheduled exactly if each of its instructions can, or
if no rule is active. -/
theorem exists_scheduled_iff (target : Target) (disabled : List String)
    (stream : List Instruction) :
    let s := Scheduler.new target Catalogue.rules disabled
    (∃ out, (s.scheduleAll stream).1 = .ok out) ↔
      s.rules = [] ∨ ∀ inst ∈ stream, ¬ Unschedulable s.rules inst := by
  intro s
  have hresult : (∃ out, (s.scheduleAll stream).1 = .ok out) ↔
      (s.started.plan 0 stream).failure = none := by
    rw [scheduleAll_eq s rfl]
    cases (s.started.plan 0 stream).failure <;> simp
  rw [hresult]
  by_cases hidle : s.started.monitors = []
  · have hrules : s.rules = [] := List.map_eq_nil_iff.mpr hidle
    simp [plan_of_idle hidle, hrules]
  · have hrules : s.rules ≠ [] := fun hnil => hidle (List.map_eq_nil_iff.mp hnil)
    rcases (remembers_started target disabled).plan_cases hidle 0 stream with
      ⟨hnone, hall⟩ | ⟨before, inst, after, rule, cause, rfl, _, hblames, hsome⟩
    · exact ⟨fun _ => Or.inr hall, fun _ => hnone⟩
    · rw [hsome]
      constructor
      · intro h
        contradiction
      · rintro (hnil | hall)
        · exact absurd hnil hrules
        · exact absurd hblames.unschedulable (hall inst (by simp))

/-- With the catalogue's rules, a pass fails exactly where it should: at the first instruction that
is unsound or obstructs an active rule, and it says which. Nothing else goes wrong in any state that
a pass can reach: monitors answer, judgements of open windows stay within the windows, and what was
decided is enough padding for every commit. -/
theorem scheduled_failure (target : Target) (disabled : List String)
    (hactive : (Scheduler.new target Catalogue.rules disabled).rules ≠ [])
    (stream : List Instruction) {σ : Type} (consume : Instruction → σ → ForInStep σ)
    (hconsume : Tireless consume) (init : σ) :
    let s := Scheduler.new target Catalogue.rules disabled
    let failure := (s.run stream init consume).failure
    ((∃ e, failure = some e) ↔ ∃ inst ∈ stream, Unschedulable s.rules inst) ∧
      (∀ e, failure = some e → ∃ position inst rule cause,
        e = .failed position inst rule cause ∧ stream[position]? = some inst ∧
        (∀ k other, k < position → stream[k]? = some other → ¬ Unschedulable s.rules other) ∧
        Blames s.rules inst rule cause) ∧
      ∀ before inst,
        let reached := (s.run before init consume).scheduler
        ∀ m ∈ reached.monitors, (∃ owed, m.peek inst = .ok owed) ∧
          (∀ w ∈ m.windows, ∃ need, m.rule.judge w inst = .ok need ∧
            ∀ n ∈ need, 0 ≤ n ∧ n ≤ w.size) ∧
          ∀ d, decide inst {} reached.monitors = .ok d → ∀ rule name padding owed,
            m.commit inst d.padding ≠ .error (.underPadded rule name padding owed) := by
  intro s failure
  have hs := remembers_started target disabled
  have hfailure : failure = (s.started.plan 0 stream).failure :=
    (run_of_tireless hconsume s rfl stream init).2
  have hmonitors : s.started.monitors ≠ [] := fun hnil => hactive (List.map_eq_nil_iff.mpr hnil)
  rw [hfailure]
  refine ⟨?_, ?_, ?_⟩
  · rcases hs.plan_cases hmonitors 0 stream with
      ⟨hnone, hall⟩ | ⟨before, inst, after, rule, cause, rfl, _, hblames, hsome⟩
    · rw [hnone]
      refine ⟨by simp, ?_⟩
      rintro ⟨inst, hinst, hunschedulable⟩
      exact absurd hunschedulable (hall inst hinst)
    · exact ⟨fun _ => ⟨inst, by simp, hblames.unschedulable⟩, fun _ => ⟨_, hsome⟩⟩
  · intro e he
    rcases hs.plan_cases hmonitors 0 stream with
      ⟨hnone, _⟩ | ⟨before, inst, after, rule, cause, rfl, hbefore, hblames, hsome⟩
    · rw [hnone] at he
      contradiction
    · rw [hsome, Option.some.injEq, Nat.zero_add] at he
      refine ⟨before.length, inst, rule, cause, he.symm, by simp, ?_, hblames⟩
      intro k other hk hother
      rw [List.getElem?_append_left hk] at hother
      exact hbefore other (List.mem_of_getElem? hother)
  · intro before inst reached m hm
    obtain ⟨history, hreached⟩ := hs.plan_scheduler 0 before
    rw [← (run_of_tireless hconsume s rfl before init).1] at hreached
    refine ⟨hreached.exists_owed inst m hm, fun w hw => hreached.exists_judge hm hw inst, ?_⟩
    intro d hdecide
    exact hreached.commit_ne_underPadded hdecide hm

/-- A matrix instruction of a pass count that no table of the third generation has, behind an
instruction that is schedulable. -/
def unknownPasses : List Instruction :=
  let v (index count : Int64) : Register := ⟨.vector, index, count⟩
  [.valu "" (v 20 1) [v 0 1], .mfma "" 3 (v 0 4) (v 4 2) (v 6 2) (v 8 4)]

theorem scheduled_failure_unknownPasses :
    let s := Scheduler.new { family := .cdna3 } Catalogue.rules []
    s.rules ≠ [] ∧ (∃ e, (s.run unknownPasses #[] collect).failure = some e) ∧
      ∀ inst, ∀ m ∈ (s.run unknownPasses #[] collect).scheduler.monitors,
        ∃ owed, m.peek inst = .ok owed := by
  intro s
  have hactive : s.rules ≠ [] := List.cons_ne_nil _ _
  obtain ⟨hiff, _, hcalm⟩ :=
    scheduled_failure _ _ hactive unknownPasses collect collect_tireless #[]
  refine ⟨hactive, hiff.mpr ?_, fun inst m hm => (hcalm unknownPasses inst m hm).1⟩
  refine ⟨_, List.mem_of_getElem? (rfl : unknownPasses[1]? = _), ?_⟩
  refine Or.inr ⟨Catalogue.write94x, ?_, ?_⟩
  · exact List.mem_of_getElem? (rfl : s.rules[1]? = _)
  · exact ⟨by decide, Or.inl (by decide)⟩

end Scheduler

end Interlock
