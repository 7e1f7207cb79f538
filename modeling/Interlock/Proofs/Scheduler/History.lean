import Interlock.Proofs.Catalogue.Sound
import Interlock.Proofs.Monitor.Requirement
import Interlock.Proofs.Scheduler.Plan

/-! # The history that all monitors share

A step asks every monitor, takes the largest answer, and commits the instruction to all of them with
that padding. Every monitor of a scheduler therefore remembers one and the same history, that of the
instructions scheduled so far.
-/

namespace Interlock.Scheduler

/-! ## One step -/

/-- The decision is the largest padding that a monitor asks for, or the one to begin with. -/
theorem decide_spec {inst : Instruction} {d d' : Decision} {monitors : List Monitor}
    (h : decide inst d monitors = .ok d') :
    d.padding ≤ d'.padding ∧
      (∀ m ∈ monitors, ∃ owed, m.peek inst = .ok owed ∧ owed ≤ d'.padding) ∧
      (d'.padding = d.padding ∨ ∃ m ∈ monitors, m.peek inst = .ok d'.padding) := by
  induction monitors generalizing d with
  | nil =>
      rw [decide, Except.ok.injEq] at h
      subst h
      exact ⟨Int64.le_refl _, by simp, Or.inl rfl⟩
  | cons m rest ih =>
      unfold decide at h
      cases hpeek : m.peek inst with
      | error e => simp [hpeek] at h
      | ok owed =>
          simp only [hpeek] at h
          obtain ⟨hle, hall, hsome⟩ := ih h
          -- Whoever asks next, the decision grows to cover both, and is one of the two.
          have hconsider : d.padding ≤ (d.consider m.rule owed).padding ∧
              owed ≤ (d.consider m.rule owed).padding ∧
              ((d.consider m.rule owed).padding = d.padding ∨
                (d.consider m.rule owed).padding = owed) := by
            unfold Decision.consider
            split
            next hlt => exact ⟨Int64.le_of_lt hlt, Int64.le_refl _, Or.inr rfl⟩
            next hnot =>
              split
              · exact ⟨Int64.le_refl _, Int64.not_lt.mp hnot, Or.inl rfl⟩
              · exact ⟨Int64.le_refl _, Int64.not_lt.mp hnot, Or.inl rfl⟩
          refine ⟨Int64.le_trans hconsider.1 hle, ?_, ?_⟩
          · intro k hk
            rcases List.mem_cons.mp hk with rfl | hk
            · exact ⟨owed, hpeek, Int64.le_trans hconsider.2.1 hle⟩
            · exact hall k hk
          · rcases hsome with heq | ⟨k, hk, hkpeek⟩
            · rcases hconsider.2.2 with hkeep | htake
              · exact Or.inl (heq.trans hkeep)
              · exact Or.inr ⟨m, List.mem_cons_self, by rw [heq, htake, hpeek]⟩
            · exact Or.inr ⟨k, List.mem_cons_of_mem m hk, hkpeek⟩

/-- A commit to all monitors is a commit to each of them. -/
theorem commitAll_eq_ok_iff {inst : Instruction} {padding : Int64}
    {monitors monitors' : List Monitor} :
    commitAll inst padding monitors = .ok monitors' ↔
      List.Forall₂ (fun m m' => m.commit inst padding = .ok m') monitors monitors' := by
  induction monitors generalizing monitors' with
  | nil =>
      rw [commitAll, Except.ok.injEq, List.forall₂_nil_left_iff]
      exact eq_comm
  | cons m rest ih =>
      unfold commitAll
      simp only [List.forall₂_cons_left_iff, ← ih]
      cases hcommit : m.commit inst padding with
      | error e => simp
      | ok next =>
          cases hrest : commitAll inst padding rest with
          | error e => simp
          | ok rest' =>
              simp
              exact eq_comm

theorem exists_of_mem_commitAll {inst : Instruction} {padding : Int64}
    {monitors monitors' : List Monitor} (h : commitAll inst padding monitors = .ok monitors')
    {m' : Monitor} (hm' : m' ∈ monitors') : ∃ m ∈ monitors, m.commit inst padding = .ok m' := by
  have hall := commitAll_eq_ok_iff.mp h
  obtain ⟨k, hk, rfl⟩ := List.mem_iff_getElem.mp hm'
  have hlength : k < monitors.length := hall.length_eq ▸ hk
  exact ⟨monitors[k], List.getElem_mem hlength, hall.get hlength hk⟩

theorem commitAll_rules {inst : Instruction} {padding : Int64} {monitors monitors' : List Monitor}
    (h : commitAll inst padding monitors = .ok monitors') :
    monitors'.map (·.rule) = monitors.map (·.rule) := by
  have hall := commitAll_eq_ok_iff.mp h
  have hrules : List.Forall₂ (fun m m' : Monitor => m.rule = m'.rule) monitors monitors' :=
    hall.imp fun m m' hcommit => (Monitor.commit_rule hcommit).symm
  rw [eq_comm, ← List.forall₂_eq_eq_eq, List.forall₂_map_left_iff, List.forall₂_map_right_iff]
  exact hrules

/-- A step of a scheduler without rules only counts the instruction; any other step asks for a sound
instruction, decides, and commits. -/
theorem step_eq_ok {s next : Scheduler} {position : Nat} {inst : Instruction} {d : Decision}
    (h : s.step position inst = .ok (d, next)) :
    (s.monitors = [] ∧ d = {} ∧ next = { s with stats := s.stats.record {} }) ∨
      (s.monitors ≠ [] ∧ inst.defect? = none ∧ decide inst {} s.monitors = .ok d ∧
        ∃ monitors, commitAll inst d.padding s.monitors = .ok monitors ∧
          next = { s with monitors, stats := s.stats.record d }) := by
  unfold step at h
  split at h
  next hempty =>
    rw [Except.ok.injEq, Prod.mk.injEq] at h
    exact Or.inl ⟨List.isEmpty_iff.mp hempty, h.1.symm, h.2.symm⟩
  next hactive =>
    right
    have hmonitors : s.monitors ≠ [] := fun hnil => hactive (by simp [hnil])
    cases hdefect : inst.defect? with
    | some defect => simp [hdefect] at h
    | none =>
        cases hdecide : decide inst {} s.monitors with
        | error e => simp [hdefect, hdecide] at h
        | ok decided =>
            cases hcommit : commitAll inst decided.padding s.monitors with
            | error e => simp [hdefect, hdecide, hcommit] at h
            | ok monitors =>
                simp only [hdefect, hdecide, hcommit, Except.ok.injEq, Prod.mk.injEq] at h
                obtain ⟨rfl, rfl⟩ := h
                exact ⟨hmonitors, rfl, rfl, monitors, hcommit, rfl⟩

/-- A step that fails names its instruction and where it stands. -/
theorem step_eq_error {s : Scheduler} {position : Nat} {inst : Instruction} {e : ScheduleError}
    (h : s.step position inst = .error e) :
    ∃ rule cause, e = .failed position inst rule cause := by
  unfold step at h
  split at h
  · simp at h
  · split at h
    · exact ⟨_, _, (Except.error.inj h).symm⟩
    · split at h
      · exact ⟨_, _, (Except.error.inj h).symm⟩
      · split at h
        · exact ⟨_, _, (Except.error.inj h).symm⟩
        · simp at h

/-! ## What every monitor remembers -/

/-- The issues of a stream in the order of the stream. -/
def issues (ds : List Decision) (stream : List Instruction) : List Issue :=
  List.zipWith (fun d inst => ⟨inst, d.padding⟩) ds stream

/-- All rules are sound, and all monitors remember the history. -/
def Remembers (s : Scheduler) (history : List Issue) : Prop :=
  ∀ m ∈ s.monitors, m.rule.Sound ∧ m.rule.Remembers history m.windows

/-- A scheduler for rules of the catalogue that has just begun remembers nothing. -/
theorem remembers_started (target : Target) (disabled : List String) :
    (Scheduler.new target Catalogue.rules disabled).started.Remembers [] := by
  intro m hm
  obtain ⟨r, hr, rfl⟩ := List.mem_map.mp hm
  exact ⟨Catalogue.rules_sound r (List.mem_of_mem_filter hr), .nil r⟩

/-- A step adds its instruction to the history of every monitor. -/
theorem Remembers.step {s next : Scheduler} {history : List Issue} (h : s.Remembers history)
    {position : Nat} {inst : Instruction} {d : Decision}
    (hstep : s.step position inst = .ok (d, next)) :
    next.Remembers (⟨inst, d.padding⟩ :: history) := by
  rcases step_eq_ok hstep with ⟨hempty, _, rfl⟩ | ⟨_, _, hdecide, monitors, hcommit, rfl⟩
  · intro m hm
    change m ∈ s.monitors at hm
    rw [hempty] at hm
    simp at hm
  · intro m' hm'
    obtain ⟨m, hm, hcommitted⟩ := exists_of_mem_commitAll hcommit hm'
    obtain ⟨hsound, hremembers⟩ := h m hm
    obtain ⟨owed, hpeek, hle⟩ := (decide_spec hdecide).2.1 m hm
    rw [Monitor.commit_rule hcommitted]
    exact ⟨hsound, hremembers.commit hsound hpeek hle hcommitted⟩

theorem step_rules {s next : Scheduler} {position : Nat} {inst : Instruction} {d : Decision}
    (hstep : s.step position inst = .ok (d, next)) : next.rules = s.rules := by
  rcases step_eq_ok hstep with ⟨_, _, rfl⟩ | ⟨_, _, _, monitors, hcommit, rfl⟩
  · rfl
  · exact commitAll_rules hcommit

theorem step_padding_nonneg {s next : Scheduler} {position : Nat} {inst : Instruction}
    {d : Decision} (hstep : s.step position inst = .ok (d, next)) : 0 ≤ d.padding := by
  rcases step_eq_ok hstep with ⟨_, rfl, _⟩ | ⟨_, _, hdecide, _⟩
  · exact Int64.le_refl 0
  · exact (decide_spec hdecide).1

/-- The monitor of an active rule, as a step finds it: the step covers what it asks for. -/
theorem Remembers.exists_peek {s next : Scheduler} {history : List Issue} (h : s.Remembers history)
    {position : Nat} {inst : Instruction} {d : Decision}
    (hstep : s.step position inst = .ok (d, next)) {r : Rule} (hr : r ∈ s.rules) :
    r.Sound ∧ ∃ windows owed, r.Remembers history windows ∧
      Monitor.peek ⟨r, windows⟩ inst = .ok owed ∧ owed ≤ d.padding := by
  obtain ⟨m, hm, rfl⟩ := List.mem_map.mp hr
  obtain ⟨hsound, hremembers⟩ := h m hm
  rcases step_eq_ok hstep with ⟨hempty, _⟩ | ⟨_, _, hdecide, _⟩
  · rw [hempty] at hm
    simp at hm
  · obtain ⟨owed, hpeek, hle⟩ := (decide_spec hdecide).2.1 m hm
    exact ⟨hsound, m.windows, owed, hremembers, hpeek, hle⟩

/-- Padding is inserted only because some active rule asks for exactly that much. -/
theorem Remembers.exists_winner {s next : Scheduler} {history : List Issue}
    (h : s.Remembers history) {position : Nat} {inst : Instruction} {d : Decision}
    (hstep : s.step position inst = .ok (d, next)) (hpos : 0 < d.padding) :
    ∃ r ∈ s.rules, r.Sound ∧ ∃ windows, r.Remembers history windows ∧
      Monitor.peek ⟨r, windows⟩ inst = .ok d.padding := by
  rcases step_eq_ok hstep with ⟨_, rfl, _⟩ | ⟨_, _, hdecide, _⟩
  · exact absurd hpos Int64.lt_irrefl
  · rcases (decide_spec hdecide).2.2 with hzero | ⟨m, hm, hpeek⟩
    · rw [hzero] at hpos
      exact absurd hpos Int64.lt_irrefl
    · obtain ⟨hsound, hremembers⟩ := h m hm
      exact ⟨m.rule, List.mem_map_of_mem hm, hsound, m.windows, hremembers, hpeek⟩

/-! ## A whole pass -/

/-- The exact number of wait states of a stream. -/
def waitsOf (stream : List Instruction) : Int :=
  (stream.map (·.waitStates.toInt)).sum

theorem waitsOf_fill {d : Decision} (hd : 0 ≤ d.padding) : waitsOf d.fill = d.padding.toInt := by
  have hwait : ∀ comment, (Instruction.pad comment).waitStates.toInt = 1 := fun _ => rfl
  simp only [waitsOf, Decision.fill, List.map_replicate, List.sum_replicate, hwait]
  simpa using Decision.natCast_pads hd

theorem waitsOf_append (first second : List Instruction) :
    waitsOf (first ++ second) = waitsOf first + waitsOf second := by
  simp [waitsOf]

/-- The padded stream has the wait states of its instructions and of their padding. -/
theorem waitsOf_emitted {ds : List Decision} {stream : List Instruction}
    (hlength : ds.length = stream.length) (hds : ∀ d ∈ ds, 0 ≤ d.padding) :
    waitsOf (emitted ds stream) = slotsOf (issues ds stream) := by
  induction ds generalizing stream with
  | nil => simp [waitsOf, issues]
  | cons d ds ih =>
      cases stream with
      | nil => simp at hlength
      | cons inst stream =>
          have hrest := ih (Nat.succ.inj hlength) fun k hk => hds k (List.mem_cons_of_mem d hk)
          have hfill := waitsOf_fill (hds d List.mem_cons_self)
          simp only [waitsOf, emitted_cons, Decision.emit, List.map_append, List.sum_append,
            issues, List.zipWith_cons_cons, slotsOf_cons, Issue.slots] at hrest hfill ⊢
          rw [hrest, hfill]
          simp

theorem issues_append {ds : List Decision} {stream : List Instruction}
    (h : ds.length = stream.length) (ds' : List Decision) (stream' : List Instruction) :
    issues (ds ++ ds') (stream ++ stream') = issues ds stream ++ issues ds' stream' := by
  simp [issues, List.zipWith_append h]

theorem map_inst_issues {ds : List Decision} {stream : List Instruction}
    (h : ds.length = stream.length) : (issues ds stream).map (·.inst) = stream := by
  apply List.ext_getElem
  · simp [issues, h]
  · intro k _ _
    simp [issues]

/-- What was issued around one issue, in terms of the stream and its decisions. -/
theorem issues_eq_append_cons {ds : List Decision} {stream : List Instruction}
    (hlength : ds.length = stream.length) {earlier later : List Issue} {issue : Issue}
    (h : issues ds stream = earlier ++ issue :: later) :
    ∃ ds₁ d ds₂ before inst after, ds = ds₁ ++ d :: ds₂ ∧ stream = before ++ inst :: after ∧
      ds₁.length = before.length ∧ ds₂.length = after.length ∧
      issue = ⟨inst, d.padding⟩ ∧ later = issues ds₂ after := by
  obtain ⟨ds₁, rest, before, tail, hlength₁, rfl, rfl, _, hrest⟩ :=
    List.zipWith_eq_append_iff.mp h
  obtain ⟨d, ds₂, inst, after, rfl, rfl, rfl, rfl⟩ := List.zipWith_eq_cons_iff.mp hrest.symm
  refine ⟨ds₁, d, ds₂, before, inst, after, rfl, rfl, hlength₁, ?_, rfl, rfl⟩
  simpa [hlength₁] using hlength

section Run

variable {s t : Scheduler} {position : Nat} {stream : List Instruction} {ds : List Decision}

/-- A pass adds its instructions to the history of every monitor, the latest in front. -/
theorem Remembers.plan {history : List Issue} (h : s.Remembers history)
    (hplan : s.plan position stream = ⟨ds, t, none⟩) :
    t.Remembers ((issues ds stream).reverse ++ history) := by
  induction stream generalizing s position ds history with
  | nil =>
      simp only [Scheduler.plan, Plan.mk.injEq] at hplan
      obtain ⟨rfl, rfl, _⟩ := hplan
      simpa [issues] using h
  | cons inst rest ih =>
      obtain ⟨d, next, ds', hstep, hrest, rfl⟩ := plan_cons_eq hplan
      have hnext := ih (h.step hstep) hrest
      simpa [issues] using hnext

theorem plan_rules (hplan : s.plan position stream = ⟨ds, t, none⟩) : t.rules = s.rules := by
  induction stream generalizing s position ds with
  | nil =>
      simp only [plan, Plan.mk.injEq] at hplan
      rw [hplan.2.1]
  | cons inst rest ih =>
      obtain ⟨d, next, ds', hstep, hrest, rfl⟩ := plan_cons_eq hplan
      rw [ih hrest, step_rules hstep]

theorem plan_padding_nonneg (hplan : s.plan position stream = ⟨ds, t, none⟩) :
    ∀ d ∈ ds, 0 ≤ d.padding := by
  induction stream generalizing s position ds with
  | nil =>
      simp only [plan, Plan.mk.injEq] at hplan
      simp [← hplan.1]
  | cons inst rest ih =>
      obtain ⟨d, next, ds', hstep, hrest, rfl⟩ := plan_cons_eq hplan
      intro d' hd'
      rcases List.mem_cons.mp hd' with rfl | hd'
      · exact step_padding_nonneg hstep
      · exact ih hrest d' hd'

/-- Unless counts are excessive, a step asks for no more than the longest window. -/
theorem Remembers.step_padding_le {history : List Issue} (h : s.Remembers history)
    (hmodest : ∀ issue ∈ history, issue.Modest) {inst : Instruction} {d : Decision}
    (hstep : s.step position inst = .ok (d, t)) : d.padding.toInt ≤ 20 := by
  by_cases hpos : 0 < d.padding
  · obtain ⟨r, _, hsound, windows, hremembers, hpeek⟩ := h.exists_winner hstep hpos
    exact Int64.le_iff_toInt_le.mp (hremembers.peek_le hsound hmodest hpeek)
  · exact Int.le_trans (Int64.le_iff_toInt_le.mp (Int64.not_lt.mp hpos)) (by decide)

theorem Remembers.step_modest {history : List Issue} (h : s.Remembers history)
    (hmodest : ∀ issue ∈ history, issue.Modest) {inst : Instruction} {d : Decision}
    (hwait : inst.waitStates.toInt ≤ 2 ^ 62) (hstep : s.step position inst = .ok (d, t)) :
    Issue.Modest ⟨inst, d.padding⟩ := by
  have hpadding := h.step_padding_le hmodest hstep
  simp only [Issue.Modest, Issue.slots]
  omega

/-- No issue of a pass is excessive if no count of the stream is. -/
theorem Remembers.plan_modest {history : List Issue} (h : s.Remembers history)
    (hmodest : ∀ issue ∈ history, issue.Modest)
    (hwaits : ∀ inst ∈ stream, inst.waitStates.toInt ≤ 2 ^ 62)
    (hplan : s.plan position stream = ⟨ds, t, none⟩) :
    ∀ issue ∈ (issues ds stream).reverse ++ history, issue.Modest := by
  induction stream generalizing s position ds history with
  | nil => simpa [issues] using hmodest
  | cons inst rest ih =>
      obtain ⟨d, next, ds', hstep, hrest, rfl⟩ := plan_cons_eq hplan
      have hissue := h.step_modest hmodest (hwaits inst List.mem_cons_self) hstep
      have hall := ih (h.step hstep) (List.forall_mem_cons.mpr ⟨hissue, hmodest⟩)
        (fun k hk => hwaits k (List.mem_cons_of_mem inst hk)) hrest
      simpa [issues] using hall

end Run

end Interlock.Scheduler
