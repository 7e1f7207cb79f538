import Interlock.Monitor
import Interlock.Proofs.LatencyTable
import Interlock.Proofs.Register.Sameness

/-! # Sound rules

A rule is sound if its judgements agree with the sizes of its windows. A sound judgement gives every
window of the rule a requirement in range, does not look at the age of the window, asks no less of a
longer latency class over the same registers, and ignores no-ops. Everything that is proved about
monitors and schedulers rests on these facts alone, not on the tables of a particular rule.
-/

namespace Interlock

/-- A judgement that agrees with windows of the given sizes. -/
structure SoundHazard (sizes : LatencyTable) (hazard : Window → Instruction → Verdict) : Prop where
  /-- The age of a window does not matter. -/
  aged : ∀ w slots inst, hazard (w.aged slots) inst = hazard w inst
  /-- There is a verdict on every class that windows have, and it stays within the window. -/
  range : ∀ w inst size, sizes.lookup? w.latencyClass = some size →
    ∃ need, hazard w inst = .ok need ∧ ∀ n ∈ need, 0 ≤ n ∧ n ≤ size
  /-- A longer class over the same registers needs no less. -/
  mono : ∀ w w' inst size size' n, Window.sameRanges w.regs w'.regs = true →
    w.latencyClass ≤ w'.latencyClass → sizes.lookup? w.latencyClass = some size →
    sizes.lookup? w'.latencyClass = some size' → hazard w inst = .ok (some n) →
    ∃ n', hazard w' inst = .ok (some n') ∧ n ≤ n'
  /-- A no-op conflicts with nothing. -/
  idle : ∀ w inst, inst.op = .nop → inst.src = [] → hazard w inst = .ok none

/-- What a scheduler relies on in a rule. -/
structure Rule.Sound (r : Rule) : Prop where
  trigger_isSome : r.trigger.isSome = true
  hazard : SoundHazard r.sizes r.judge
  /-- A rule that closes windows on a conflict always asks for the whole window. -/
  closing : r.policy = .closeOnHazard → ∀ w inst size n,
    r.sizes.lookup? w.latencyClass = some size → r.judge w inst = .ok (some n) → n = size
  sizes_range : r.sizes.Within 0 20

namespace Window

@[simp] theorem aged_regs (w : Window) (slots : Int64) : (w.aged slots).regs = w.regs := rfl

@[simp] theorem aged_size (w : Window) (slots : Int64) : (w.aged slots).size = w.size := rfl

@[simp] theorem aged_latencyClass (w : Window) (slots : Int64) :
    (w.aged slots).latencyClass = w.latencyClass := rfl

@[simp] theorem aged_elapsed (w : Window) (slots : Int64) :
    (w.aged slots).elapsed = w.elapsed + slots := rfl

@[simp] theorem aged_aged (w : Window) (slots more : Int64) :
    (w.aged slots).aged more = w.aged (slots + more) := by
  simp only [aged, Int64.add_assoc]

@[simp] theorem aged_zero (w : Window) : w.aged 0 = w := by
  simp only [aged, Int64.add_zero]

end Window

namespace Rule

variable {r : Rule}

/-- The window has the size that the rule gives its latency class. -/
def Admits (r : Rule) (w : Window) : Prop :=
  r.sizes.lookup? w.latencyClass = some w.size

/-- The instruction triggers the rule with a latency class of positive size. -/
def Opens (r : Rule) (inst : Instruction) : Prop :=
  r.triggers inst = true ∧ ∃ size, r.sizeFor inst = .ok size ∧ 0 < size

theorem Admits.aged {w : Window} (hw : r.Admits w) (slots : Int64) : r.Admits (w.aged slots) := hw

namespace Sound

theorem size_range (hr : r.Sound) {w : Window} (hw : r.Admits w) : 0 ≤ w.size ∧ w.size ≤ 20 :=
  hr.sizes_range.of_lookup hw

/-- On its own windows a sound rule never fails, and the check changes nothing in its verdict. -/
theorem check_eq (hr : r.Sound) {w : Window} (hw : r.Admits w) (inst : Instruction) :
    ∃ need, r.check w inst = .ok need ∧ r.judge w inst = .ok need ∧
      ∀ n ∈ need, 0 ≤ n ∧ n ≤ w.size := by
  obtain ⟨need, hjudge, hrange⟩ := hr.hazard.range w inst w.size hw
  refine ⟨need, ?_, hjudge, hrange⟩
  unfold check
  rw [hjudge]
  cases need with
  | none => rfl
  | some n =>
      obtain ⟨hnonneg, hle⟩ := hrange n rfl
      simp [Int64.not_lt.mpr hnonneg, Int64.not_lt.mpr hle]

/-- A check on a window that gives a requirement reports the rule's own judgement. -/
theorem judge_of_check (hr : r.Sound) {w : Window} (hw : r.Admits w) {inst : Instruction}
    {need : Option Int64} (h : r.check w inst = .ok need) : r.judge w inst = .ok need := by
  obtain ⟨need', hcheck, hjudge, _⟩ := hr.check_eq hw inst
  rw [h, Except.ok.injEq] at hcheck
  rw [hcheck, hjudge]

theorem check_range (hr : r.Sound) {w : Window} (hw : r.Admits w) {inst : Instruction} {n : Int64}
    (h : r.check w inst = .ok (some n)) : 0 ≤ n ∧ n ≤ w.size := by
  obtain ⟨need, hcheck, _, hrange⟩ := hr.check_eq hw inst
  rw [h, Except.ok.injEq] at hcheck
  exact hrange n hcheck.symm

/-- The age of a window does not matter to a check. -/
theorem check_aged (hr : r.Sound) {w : Window} (hw : r.Admits w) (slots : Int64)
    (inst : Instruction) : r.check (w.aged slots) inst = r.check w inst := by
  obtain ⟨need, hcheck, hjudge, _⟩ := hr.check_eq hw inst
  obtain ⟨need', hcheck', hjudge', _⟩ := hr.check_eq (hw.aged slots) inst
  rw [hr.hazard.aged, hjudge, Except.ok.injEq] at hjudge'
  rw [hcheck, hcheck', hjudge']

/-- A window over the same registers with a longer class needs no less. -/
theorem check_mono (hr : r.Sound) {w w' : Window} (hw : r.Admits w) (hw' : r.Admits w')
    (hregs : Window.sameRanges w.regs w'.regs = true) (hclass : w.latencyClass ≤ w'.latencyClass)
    {inst : Instruction} {n : Int64} (h : r.check w inst = .ok (some n)) :
    ∃ n', r.check w' inst = .ok (some n') ∧ n ≤ n' := by
  obtain ⟨n', hjudge', hle⟩ := hr.hazard.mono w w' inst w.size w'.size n hregs hclass hw hw'
    (hr.judge_of_check hw h)
  obtain ⟨need, hcheck, hjudge, _⟩ := hr.check_eq hw' inst
  rw [hjudge', Except.ok.injEq] at hjudge
  exact ⟨n', by rw [hcheck, hjudge], hle⟩

theorem check_idle (hr : r.Sound) {w : Window} (hw : r.Admits w) {inst : Instruction}
    (hop : inst.op = .nop) (hsrc : inst.src = []) : r.check w inst = .ok none := by
  obtain ⟨need, hcheck, hjudge, _⟩ := hr.check_eq hw inst
  rw [hr.hazard.idle w inst hop hsrc, Except.ok.injEq] at hjudge
  rw [hcheck, hjudge]

/-- A rule that closes windows on a conflict asks for the whole window. -/
theorem check_closing (hr : r.Sound) {w : Window} (hw : r.Admits w)
    (hpolicy : r.policy = .closeOnHazard) {inst : Instruction} {n : Int64}
    (h : r.check w inst = .ok (some n)) : n = w.size :=
  hr.closing hpolicy w inst w.size n hw (hr.judge_of_check hw h)

theorem lacksTrigger_eq_false (hr : r.Sound) (inst : Instruction) :
    r.lacksTrigger inst = false := by
  have htrigger := hr.trigger_isSome
  cases ht : r.trigger with
  | none => simp [ht] at htrigger
  | some trigger => simp [lacksTrigger, ht]

/-- An instruction opens a window exactly if it triggers the rule with a class of positive size. -/
theorem opening_eq_some_iff (hr : r.Sound) {inst : Instruction} {w : Window} :
    r.opening inst = .ok (some w) ↔ r.triggers inst = true ∧ r.trackedRegs inst ≠ [] ∧
      ∃ size, r.sizeFor inst = .ok size ∧ size ≠ 0 ∧
        w = .opened inst (r.trackedRegs inst) size := by
  unfold opening
  rw [hr.lacksTrigger_eq_false inst]
  by_cases htriggers : r.triggers inst = true
  · cases hsize : r.sizeFor inst with
    | error e => simp [htriggers]
    | ok size =>
        by_cases hregs : r.trackedRegs inst = []
        · simp [htriggers, hregs]
        · by_cases hzero : size = 0
          · simp [htriggers, hregs, hzero]
          · simp [htriggers, hregs, hzero]
            exact eq_comm
  · simp [htriggers]

theorem separation_eq (hr : r.Sound) (trigger conflict : Instruction) :
    r.separation trigger conflict =
      if r.triggers trigger then
        match r.sizeFor trigger with
        | .error e => .error e
        | .ok size => r.check (.opened trigger (r.trackedRegs trigger) size) conflict
      else .ok none := by
  unfold separation
  rw [hr.lacksTrigger_eq_false]
  rfl

theorem lookup_of_sizeFor {inst : Instruction} {size : Int64} (h : r.sizeFor inst = .ok size) :
    r.sizes.lookup? inst.passes = some size := by
  unfold sizeFor at h
  split at h
  next found hfound =>
    rw [Except.ok.injEq] at h
    rwa [h] at hfound
  next => contradiction

/-- A requirement between two instructions is one of a window over the registers of the first. -/
theorem exists_check_of_separation (hr : r.Sound) {trigger conflict : Instruction} {n : Int64}
    (hn : r.separation trigger conflict = .ok (some n)) :
    ∃ size, r.Admits (.opened trigger (r.trackedRegs trigger) size) ∧
      r.check (.opened trigger (r.trackedRegs trigger) size) conflict = .ok (some n) := by
  rw [hr.separation_eq] at hn
  split at hn
  next =>
    cases hsize : r.sizeFor trigger with
    | error e => simp [hsize] at hn
    | ok size =>
        simp only [hsize] at hn
        exact ⟨size, lookup_of_sizeFor hsize, hn⟩
  next => cases hn

theorem separation_range (hr : r.Sound) {trigger conflict : Instruction} {n : Int64}
    (hn : r.separation trigger conflict = .ok (some n)) : 0 ≤ n ∧ n ≤ 20 := by
  obtain ⟨size, hadmits, hcheck⟩ := hr.exists_check_of_separation hn
  obtain ⟨hnonneg, hle⟩ := hr.check_range hadmits hcheck
  exact ⟨hnonneg, Int64.le_trans hle (hr.size_range hadmits).2⟩

/-- A requirement between two instructions is one of the window that the first opens. Only where the
window has no size is there none, and then nothing is required. -/
theorem opening_of_separation (hr : r.Sound) {trigger conflict : Instruction} {n : Int64}
    (hn : r.separation trigger conflict = .ok (some n))
    (hopening : ∃ opened, r.opening trigger = .ok opened) :
    n = 0 ∨ ∃ opened, r.opening trigger = .ok (some opened) ∧
      r.check opened conflict = .ok (some n) := by
  rw [hr.separation_eq] at hn
  split at hn
  next htriggers =>
    cases hsize : r.sizeFor trigger with
    | error e => simp [hsize] at hn
    | ok size =>
        simp only [hsize] at hn
        -- A class of size zero opens no window, but then its requirement is zero as well.
        by_cases hzero : size = 0
        · left
          have hadmits : r.Admits (.opened trigger (r.trackedRegs trigger) size) :=
            lookup_of_sizeFor hsize
          obtain ⟨hnonneg, hle⟩ := hr.check_range hadmits hn
          exact Int64.le_antisymm (hzero ▸ hle) hnonneg
        · right
          have hregs : r.trackedRegs trigger ≠ [] := by
            intro hnil
            obtain ⟨opened, hopening⟩ := hopening
            simp [opening, hr.lacksTrigger_eq_false, htriggers, hsize, hnil] at hopening
          exact ⟨_, hr.opening_eq_some_iff.mpr ⟨htriggers, hregs, size, hsize, hzero, rfl⟩, hn⟩
  next => cases hn

theorem admits_opened (hr : r.Sound) {inst : Instruction} {w : Window}
    (h : r.opening inst = .ok (some w)) : r.Admits w := by
  obtain ⟨_, _, size, hsize, _, rfl⟩ := hr.opening_eq_some_iff.mp h
  exact lookup_of_sizeFor hsize

theorem separation_of_opening (hr : r.Sound) {trigger : Instruction} {w : Window}
    (h : r.opening trigger = .ok (some w)) (conflict : Instruction) :
    r.separation trigger conflict = r.check w conflict := by
  obtain ⟨htriggers, _, size, hsize, _, rfl⟩ := hr.opening_eq_some_iff.mp h
  rw [hr.separation_eq, if_pos htriggers, hsize]

theorem opens_of_opening (hr : r.Sound) {inst : Instruction} {w : Window}
    (h : r.opening inst = .ok (some w)) : r.Opens inst ∧ w.regs = r.trackedRegs inst := by
  have hnonneg := (hr.size_range (hr.admits_opened h)).1
  obtain ⟨htriggers, _, size, hsize, hzero, rfl⟩ := hr.opening_eq_some_iff.mp h
  have hpos : 0 < size := Int64.lt_of_le_of_ne hnonneg (Ne.symm hzero)
  exact ⟨⟨htriggers, size, hsize, hpos⟩, rfl⟩

theorem opening_of_opens (hr : r.Sound) {inst : Instruction} (h : r.Opens inst)
    (hregs : r.trackedRegs inst ≠ []) :
    ∃ w, r.opening inst = .ok (some w) ∧ w.regs = r.trackedRegs inst := by
  obtain ⟨htriggers, size, hsize, hpos⟩ := h
  have hzero : size ≠ 0 := (Int64.ne_of_lt hpos).symm
  exact ⟨_, hr.opening_eq_some_iff.mpr ⟨htriggers, hregs, size, hsize, hzero, rfl⟩, rfl⟩

end Sound

end Rule

end Interlock
