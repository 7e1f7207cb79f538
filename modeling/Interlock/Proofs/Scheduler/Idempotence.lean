import Interlock.Proofs.Monitor.Rest
import Interlock.Proofs.Scheduler.History

/-! # A padded stream needs no more padding

A second pass sees the padding of the first as instructions of the stream. It is simulated by the
first: once the padding of an instruction and the instruction itself have gone by, the monitors of
both passes are the same, and the second pass has inserted nothing.
-/

namespace Interlock.Scheduler

/-- A pass over the stream that inserts nothing leads from `s` to `t`. -/
structure Untouched (s : Scheduler) (stream : List Instruction) (t : Scheduler) : Prop where
  plan : ∀ position, s.plan position stream = ⟨List.replicate stream.length {}, t, none⟩
  hazards : t.stats.hazards = s.stats.hazards
  padding : t.stats.padding = s.stats.padding
  byRule : t.stats.byRule = s.stats.byRule

namespace Untouched

theorem nil (s : Scheduler) : Untouched s [] s :=
  ⟨fun _ => rfl, rfl, rfl, rfl⟩

theorem append {s t u : Scheduler} {first second : List Instruction} (hfirst : Untouched s first t)
    (hsecond : Untouched t second u) : Untouched s (first ++ second) u := by
  refine ⟨?_, hsecond.hazards.trans hfirst.hazards, hsecond.padding.trans hfirst.padding,
    hsecond.byRule.trans hfirst.byRule⟩
  intro position
  rw [plan_append (hfirst.plan position) second, hsecond.plan, List.length_append,
    List.replicate_add]

/-- A step without padding counts its instruction and commits it. -/
theorem single {s : Scheduler} {inst : Instruction} {monitors : List Monitor}
    (h : ∀ position, s.step position inst =
      .ok ({}, { s with monitors, stats := s.stats.record {} })) :
    Untouched s [inst] { s with monitors, stats := s.stats.record {} } := by
  refine ⟨?_, rfl, rfl, rfl⟩
  intro position
  simp only [Scheduler.plan, h position]
  rfl

end Untouched

/-! ## One step -/

theorem decide_eq_of_peek_zero {inst : Instruction} {monitors : List Monitor}
    (h : ∀ m ∈ monitors, m.peek inst = .ok 0) : decide inst {} monitors = .ok {} := by
  induction monitors with
  | nil => rfl
  | cons m rest ih =>
      simp only [decide, h m List.mem_cons_self]
      exact ih fun k hk => h k (List.mem_cons_of_mem m hk)

theorem step_of_peek_zero {s : Scheduler} {inst : Instruction} (hdefect : inst.defect? = none)
    (hpeek : ∀ m ∈ s.monitors, m.peek inst = .ok 0) {monitors : List Monitor}
    (hcommit : commitAll inst 0 s.monitors = .ok monitors) (position : Nat) :
    s.step position inst = .ok ({}, { s with monitors, stats := s.stats.record {} }) := by
  cases hmonitors : s.monitors with
  | nil =>
      rw [hmonitors, commitAll, Except.ok.injEq] at hcommit
      simp [step, hmonitors, ← hcommit]
  | cons m rest =>
      rw [hmonitors] at hpeek hcommit
      simp [step, hmonitors, hdefect, decide_eq_of_peek_zero hpeek, hcommit]

/-! ## The padding of an instruction, and the instruction -/

/-- Pads go by like wait states. -/
theorem untouched_pads {monitors : List Monitor} (hexact : ∀ m ∈ monitors, m.Exact)
    (comment : RawText) (count : Nat) {start : Nat} (hcount : start + count ≤ 20) {s : Scheduler}
    (hs : s.monitors = monitors.map (Monitor.rested start)) :
    ∃ t, Untouched s (List.replicate count (.pad comment)) t ∧
      t.monitors = monitors.map (Monitor.rested (start + count)) := by
  induction count generalizing s start with
  | zero => exact ⟨s, .nil s, hs⟩
  | succ count ih =>
      have hpeek : ∀ m ∈ s.monitors, m.peek (.pad comment) = .ok 0 := by
        rw [hs, List.forall_mem_map]
        exact fun m hm => (hexact m hm).peek_pad start comment
      have hcommit : commitAll (.pad comment) 0 s.monitors =
          .ok (monitors.map (Monitor.rested (start + 1))) := by
        rw [hs, commitAll_eq_ok_iff, List.forall₂_map_left_iff, List.forall₂_map_right_iff,
          List.forall₂_same]
        exact fun m hm => (hexact m hm).commit_pad (by omega) comment
      let next : Scheduler :=
        { s with monitors := monitors.map (.rested (start + 1)), stats := s.stats.record {} }
      have hsingle : Untouched s [.pad comment] next :=
        .single (step_of_peek_zero rfl hpeek hcommit)
      have hnext : next.monitors = monitors.map (.rested (start + 1)) := rfl
      obtain ⟨t, hrest, ht⟩ := ih (by omega) hnext
      refine ⟨t, hsingle.append hrest, ?_⟩
      rw [ht, Nat.add_assoc, Nat.add_comm 1]

section Pass

variable {s s₂ : Scheduler} {history : List Issue}

theorem Remembers.exact (h : s.Remembers history) (hmodest : ∀ issue ∈ history, issue.Modest) :
    ∀ m ∈ s.monitors, m.Exact := by
  intro m hm
  obtain ⟨hsound, hremembers⟩ := h m hm
  refine ⟨hsound, fun w hw => hremembers.admits hsound hw, fun w hw => ?_⟩
  obtain ⟨hnonneg, hlt⟩ := hremembers.young hsound hmodest hw
  exact ⟨hnonneg, hlt, (hsound.size_range (hremembers.admits hsound hw)).2⟩

/-- What a step hands out goes by untouched, and leaves the monitors that the step leaves. -/
theorem Remembers.untouched_step (h : s.Remembers history)
    (hmodest : ∀ issue ∈ history, issue.Modest) {inst : Instruction}
    (hwait : inst.waitStates.toInt ≤ 2 ^ 62) {position : Nat} {d : Decision} {next : Scheduler}
    (hstep : s.step position inst = .ok (d, next)) (hs₂ : s₂.monitors = s.monitors) :
    ∃ t, Untouched s₂ (d.emit inst) t ∧ t.monitors = next.monitors := by
  have hpadding := h.step_padding_le hmodest hstep
  have hexact := h.exact hmodest
  rcases step_eq_ok hstep with ⟨hempty, rfl, rfl⟩ | ⟨_, hdefect, hdecide, monitors, hcommit, rfl⟩
  · refine ⟨{ s₂ with monitors := [], stats := s₂.stats.record {} }, ?_, hempty.symm⟩
    have hidle : ∀ position, s₂.step position inst =
        .ok ({}, { s₂ with monitors := [], stats := s₂.stats.record {} }) := by
      intro position
      rw [hempty] at hs₂
      simp [Scheduler.step, hs₂]
    exact .single hidle
  · -- The second pass first sees the padding, then the instruction, and asks for nothing at either.
    have hpeek := (decide_spec hdecide).2.1
    have hstart : s₂.monitors = s.monitors.map (.rested 0) := by
      rw [hs₂, List.map_congr_left fun m hm => (hexact m hm).rested_zero]
      simp
    have hpads : 0 + d.pads ≤ 20 := by
      have hclamp : d.pads = d.padding.toInt.toNat := rfl
      omega
    obtain ⟨t, hfill, ht⟩ := untouched_pads hexact d.comment d.pads hpads hstart
    rw [Nat.zero_add] at ht
    have hquiet : ∀ m ∈ t.monitors, m.peek inst = .ok 0 := by
      rw [ht, List.forall_mem_map]
      intro m hm
      obtain ⟨owed, howed, hle⟩ := hpeek m hm
      exact (hexact m hm).peek_rested howed hle hpadding
    have hlast : commitAll inst 0 t.monitors = .ok monitors := by
      rw [commitAll_eq_ok_iff] at hcommit
      rw [ht, commitAll_eq_ok_iff, List.forall₂_map_left_iff]
      have hboth := (List.forall₂_and_left _ _).mpr ⟨fun m (hm : m ∈ s.monitors) => hm, hcommit⟩
      refine hboth.imp fun m m' ⟨hm, hm'⟩ => ?_
      obtain ⟨owed, howed, hle⟩ := hpeek m hm
      exact ((hexact m hm).commit_rested howed hle hpadding hwait).trans hm'
    exact ⟨_, hfill.append (.single (step_of_peek_zero hdefect hquiet hlast)), rfl⟩

/-- A padded stream goes by untouched, and leaves the monitors that the first pass left. -/
theorem Remembers.untouched_emitted (h : s.Remembers history)
    (hmodest : ∀ issue ∈ history, issue.Modest) {stream : List Instruction}
    (hwaits : ∀ inst ∈ stream, inst.waitStates.toInt ≤ 2 ^ 62) {position : Nat}
    {ds : List Decision} {t : Scheduler} (hplan : s.plan position stream = ⟨ds, t, none⟩)
    (hs₂ : s₂.monitors = s.monitors) :
    ∃ t₂, Untouched s₂ (emitted ds stream) t₂ ∧ t₂.monitors = t.monitors := by
  induction stream generalizing s s₂ history position ds with
  | nil =>
      simp only [Scheduler.plan, Plan.mk.injEq] at hplan
      obtain ⟨rfl, rfl, _⟩ := hplan
      exact ⟨s₂, .nil s₂, hs₂⟩
  | cons inst rest ih =>
      obtain ⟨d, next, ds', hstep, hrest, rfl⟩ := plan_cons_eq hplan
      have hwait := hwaits inst List.mem_cons_self
      obtain ⟨next₂, hemit, hnext₂⟩ := h.untouched_step hmodest hwait hstep hs₂
      have hissue := h.step_modest hmodest hwait hstep
      obtain ⟨t₂, huntouched, ht₂⟩ := ih (h.step hstep)
        (List.forall_mem_cons.mpr ⟨hissue, hmodest⟩)
        (fun k hk => hwaits k (List.mem_cons_of_mem inst hk)) hrest hnext₂
      refine ⟨t₂, ?_, ht₂⟩
      rw [emitted_cons]
      exact hemit.append huntouched

end Pass

/-! ## A second pass -/

theorem emitted_replicate (stream : List Instruction) :
    emitted (List.replicate stream.length {}) stream = stream := by
  induction stream with
  | nil => rfl
  | cons inst rest ih =>
      rw [List.length_cons, List.replicate_succ, emitted_cons, ih]
      rfl

theorem Untouched.scheduleAll {s t : Scheduler} (hs : s.consumed = false)
    {stream : List Instruction} (h : Untouched s.started stream t) :
    s.scheduleAll stream = (.ok stream, t) := by
  rw [scheduleAll_eq s hs, decisions, h.plan 0]
  exact congrArg (fun out => (Except.ok out, t)) (emitted_replicate stream)

/-- Scheduling is idempotent: a fresh scheduler for the same rules hands a padded stream out as it
is, and reports no hazard and no padding. -/
theorem scheduled_idempotent (target : Target) (disabled : List String)
    (stream out : List Instruction)
    (hcounts : ∀ inst ∈ stream, inst.op = .nop → inst.count.toInt ≤ 2 ^ 62)
    (hout : ((Scheduler.new target Catalogue.rules disabled).scheduleAll stream).1 = .ok out) :
    let second := (Scheduler.new target Catalogue.rules disabled).scheduleAll out
    second.1 = .ok out ∧ second.2.stats.hazards = 0 ∧ second.2.stats.padding = 0 ∧
      second.2.stats.byRule = {} := by
  obtain ⟨⟨t, hplan⟩, hemitted⟩ := scheduleAll_eq_ok rfl hout
  have hwaits : ∀ inst ∈ stream, inst.waitStates.toInt ≤ 2 ^ 62 :=
    fun inst hinst => Instruction.waitStates_le (hcounts inst hinst)
  obtain ⟨t₂, huntouched, _⟩ :=
    (remembers_started target disabled).untouched_emitted (by simp) hwaits hplan rfl
  rw [← hemitted] at huntouched
  rw [huntouched.scheduleAll rfl]
  exact ⟨rfl, huntouched.hazards, huntouched.padding, huntouched.byRule⟩

theorem scheduled_idempotent_overwrittenResult :
    let s := Scheduler.new { family := .cdna3 } Catalogue.rules []
    let out := emitted (s.decisions overwrittenResult) overwrittenResult
    (s.scheduleAll overwrittenResult).1 = .ok out ∧ out.length = 14 ∧
      (s.scheduleAll out).1 = .ok out := by
  intro s out
  have hout : (s.scheduleAll overwrittenResult).1 = .ok out := by decide +kernel
  exact ⟨hout, by decide +kernel, (scheduled_idempotent _ _ _ _ (by decide) hout).1⟩

end Interlock.Scheduler
