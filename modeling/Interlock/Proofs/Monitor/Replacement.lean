import Interlock.Proofs.Catalogue.Sound
import Interlock.Proofs.Monitor.Residue

/-! # What a commit keeps and what it replaces

The window that an instruction opens takes the place of the open one over the same registers. What
the older trigger still required is then given up if the new one is of a shorter latency class. That
is all that a commit can forget: every other window goes on to ask for what it lacks, less the wait
states that were issued.
-/

namespace Interlock

/-- The instruction opens a window of a shorter latency class in the place of this one. -/
def Rule.shortens (r : Rule) (inst : Instruction) (w : Window) : Bool :=
  match r.opened inst with
  | some new => Window.sameRanges new.regs w.regs && decide (new.latencyClass < w.latencyClass)
  | none => false

/-- The monitor without the windows that an instruction replaces by shorter ones. -/
def Monitor.lasting (m : Monitor) (inst : Instruction) : Monitor :=
  { m with windows := m.windows.filter (!m.rule.shortens inst ·) }

namespace Monitor

variable {m : Monitor} {inst conflict : Instruction} {owed padding n : Int64} {w : Window}

@[simp] theorem lasting_rule (m : Monitor) (inst : Instruction) :
    (m.lasting inst).rule = m.rule := rfl

theorem lasting_eq_self (h : ∀ w ∈ m.windows, m.rule.shortens inst w = false) :
    m.lasting inst = m := by
  have hall : m.windows.filter (!m.rule.shortens inst ·) = m.windows :=
    List.filter_eq_self.mpr fun w hw => by simp [h w hw]
  rw [lasting, hall]

theorem Exact.lasting (hm : m.Exact) (inst : Instruction) : (m.lasting inst).Exact :=
  ⟨hm.sound, fun w hw => hm.admits w (List.mem_of_mem_filter hw),
    fun w hw => hm.young w (List.mem_of_mem_filter hw)⟩

/-- A window that a commit drops has nothing left to ask for. -/
theorem Exact.need_le_of_dropped (hm : m.Exact) (hpeek : m.peek inst = .ok owed)
    (hle : owed ≤ padding) (hslots : padding.toInt + inst.waitStates.toInt + 20 < 2 ^ 63)
    (hw : w ∈ m.windows) (hdropped : m.rule.survivor inst padding w = none)
    (hn : m.rule.check w conflict = .ok (some n)) :
    n.toInt ≤ w.elapsed.toInt + padding.toInt + inst.waitStates.toInt := by
  have hnonneg := Int64.le_trans (peek_nonneg hpeek) hle
  obtain ⟨hlow, hsum⟩ := Instruction.toInt_slots hnonneg hslots
  obtain ⟨need, hcheck, hlack⟩ := lack_le_of_peek hpeek hle hw
  have hsize := Int64.le_iff_toInt_le.mp (hm.sound.check_range (hm.admits w hw) hn).2
  rcases Rule.survivor_eq_none hcheck (Or.inr hlack) hdropped with hinert | ⟨hhit, hpolicy⟩
  · rw [(hm.young w hw).inert_aged_iff hlow (by omega), hsum] at hinert
    omega
  · -- A conflict that closes its window asked for all of it, and the padding covers that.
    obtain ⟨nops, rfl⟩ := Option.isSome_iff_exists.mp hhit
    have hwhole := hm.sound.check_closing (hm.admits w hw) hpolicy hcheck
    have hone := inst.one_le_waitStates
    rw [Int64.le_iff_toInt_le, hm.toInt_lack hw hcheck, hwhole] at hlack
    omega

/-- A window that survives a commit and is not replaced by a shorter one has a successor that asks
for as much, but for the wait states issued. -/
theorem Exact.exists_successor (hm : m.Exact) (hnonneg : 0 ≤ padding)
    (hslots : padding.toInt + inst.waitStates.toInt + 20 < 2 ^ 63) (hw : w ∈ m.windows)
    (hlasting : m.rule.shortens inst w = false) {next : Window}
    (hsurvivor : m.rule.survivor inst padding w = some next)
    (hn : m.rule.check w conflict = .ok (some n)) :
    ∃ v ∈ (m.settled inst padding).windows, ∃ n', m.rule.check v conflict = .ok (some n') ∧
      n.toInt - (w.elapsed.toInt + padding.toInt + inst.waitStates.toInt) ≤
        n'.toInt - v.elapsed.toInt := by
  obtain ⟨hlow, hsum⟩ := Instruction.toInt_slots hnonneg hslots
  have hage := Word.toInt_nonneg.mp (hm.young w hw).nonneg
  have hkept := List.mem_filterMap.mpr ⟨w, hw, hsurvivor⟩
  obtain ⟨rfl, _⟩ := Rule.survivor_eq_some hsurvivor
  by_cases hother : ∀ new ∈ m.rule.opened inst, Window.sameRanges new.regs w.regs = false
  · refine ⟨_, Window.mem_adopt_of_mem hkept hother, n, ?_, ?_⟩
    · rw [hm.sound.check_aged (hm.admits w hw), hn]
    · rw [Window.aged_elapsed, (hm.young w hw).toInt_elapsed_add hlow (by omega), hsum]
      omega
  · push Not at hother
    obtain ⟨new, hopened, hsame⟩ := hother
    rw [Option.mem_def] at hopened
    rw [ne_eq, Bool.not_eq_false] at hsame
    -- The window in its place is of no shorter class, and so it asks for no less.
    have hclass : w.latencyClass ≤ new.latencyClass := by
      simpa [Rule.shortens, hopened, hsame] using hlasting
    have hopening := Rule.opening_of_opened hopened
    rw [Window.sameRanges_comm] at hsame
    obtain ⟨n', hn', hle⟩ := hm.sound.check_mono (hm.admits w hw)
      (hm.sound.admits_opened hopening) hsame hclass hn
    refine ⟨new, ?_, n', hn', ?_⟩
    · simp only [Monitor.settled, hopened, Window.adopt]
      exact new.mem_place_self _
    · obtain ⟨_, _, size, _, _, rfl⟩ := hm.sound.opening_eq_some_iff.mp hopening
      have hone := inst.one_le_waitStates
      rw [Word.toInt_nonneg] at hnonneg
      rw [Int64.le_iff_toInt_le] at hle
      simp only [Window.opened, Int64.toInt_zero]
      omega

/-- A commit takes no more than the wait states issued off what lasting windows ask for. -/
theorem Exact.peek_settled (hm : m.Exact) (hpeek : m.peek inst = .ok owed) (hle : owed ≤ padding)
    (hslots : padding.toInt + inst.waitStates.toInt + 20 < 2 ^ 63) {due after : Int64}
    (hdue : (m.lasting inst).peek conflict = .ok due)
    (hafter : (m.settled inst padding).peek conflict = .ok after) :
    max 0 (due.toInt - padding.toInt - inst.waitStates.toInt) ≤ after.toInt := by
  have hnonneg := Int64.le_trans (peek_nonneg hpeek) hle
  have hpadding := Word.toInt_nonneg.mp hnonneg
  have hone := inst.one_le_waitStates
  have hleast := Word.toInt_nonneg.mp (peek_nonneg hafter)
  suffices hbound : due.toInt - padding.toInt - inst.waitStates.toInt ≤ after.toInt by omega
  rcases (Rule.owedAfter_spec hdue).2.2 with rfl | ⟨w, hw, howed⟩
  · rw [Int64.toInt_zero]
    omega
  · obtain ⟨hwindow, hlasting⟩ := List.mem_filter.mp hw
    rw [Bool.not_eq_true'] at hlasting
    obtain ⟨need, hcheck, _⟩ := hm.sound.check_eq (hm.admits w hwindow) conflict
    rw [lasting_rule, Rule.owedTo_of_check hcheck, Except.ok.injEq] at howed
    rw [← howed]
    cases need with
    | none =>
        simp only [Rule.lack, Int64.toInt_zero]
        omega
    | some n =>
        rw [hm.toInt_lack hwindow hcheck]
        cases hsurvivor : m.rule.survivor inst padding w with
        | none =>
            have hneed := hm.need_le_of_dropped hpeek hle hslots hwindow hsurvivor hcheck
            omega
        | some next =>
            obtain ⟨v, hv, n', hn', hrest⟩ :=
              hm.exists_successor hnonneg hslots hwindow hlasting hsurvivor hcheck
            have hasked := (hm.settled hnonneg hslots).toInt_lack hv hn'
            obtain ⟨need, hneed, hlack⟩ := lack_le_of_peek hafter (Int64.le_refl after) hv
            rw [settled_rule, hn', Except.ok.injEq] at hneed
            rw [← hneed, Int64.le_iff_toInt_le, hasked] at hlack
            omega

end Monitor

namespace Residue

/-- Committing an instruction takes nothing off what is owed but the wait states that are issued,
unless it replaces an open window by one of a shorter latency class. The bound then holds of what
the other windows ask for. -/
theorem commit_keeps_lasting {r : Rule} (hr : r ∈ Catalogue.rules) {insts : List Instruction}
    (hcounts : ∀ inst ∈ insts, inst.op = .nop → inst.count.toInt ≤ 2 ^ 61)
    {inst : Instruction} (hcount : inst.op = .nop → inst.count.toInt ≤ 2 ^ 61)
    {owed padding : Int64} (howed : (follow { rule := r } insts).peek inst = .ok owed)
    (hle : owed ≤ padding) (hpadding : padding.toInt ≤ 2 ^ 61) {left : Residue}
    (hcommit : (follow { rule := r } insts).commit inst padding = (.ok (), left))
    (conflict : Instruction) :
    let reached := follow { rule := r } insts
    ∃ before due after, reached.peek conflict = .ok before ∧
      (reached.toMonitor.lasting inst).peek conflict = .ok due ∧
      left.peek conflict = .ok after ∧
      max 0 (due.toInt - padding.toInt - inst.waitStates.toInt) ≤ after.toInt ∧
      ((∀ w ∈ reached.windows, r.shortens inst w = false) → due = before) := by
  intro reached
  have hwaits : ∀ inst : Instruction, (inst.op = .nop → inst.count.toInt ≤ 2 ^ 61) →
      inst.waitStates.toInt ≤ 2 ^ 62 :=
    fun inst hcount => Instruction.waitStates_le fun hop => (hcount hop).trans (by norm_num)
  have hwait := hwaits inst hcount
  obtain ⟨htidy, hexact, hrule⟩ := follow_exact (Catalogue.rules_sound r hr)
    fun inst hinst => hwaits inst (hcounts inst hinst)
  obtain ⟨left', hcommit', _, hleft⟩ := htidy.commit howed hle
  obtain rfl : left = left' := by
    rw [hcommit, Prod.mk.injEq] at hcommit'
    exact hcommit'.2
  have hnonneg : 0 ≤ padding := Int64.le_trans (Monitor.peek_nonneg (m := toMonitor _) howed) hle
  obtain ⟨before, hbefore⟩ := hexact.exists_peek conflict
  obtain ⟨due, hdue⟩ := (hexact.lasting inst).exists_peek conflict
  have hslots : padding.toInt + inst.waitStates.toInt + 20 < 2 ^ 63 := by omega
  obtain ⟨after, hafter⟩ := (hexact.settled hnonneg hslots).exists_peek conflict
  refine ⟨before, due, after, hbefore, hdue, ?_, hexact.peek_settled howed hle hslots hdue hafter,
    ?_⟩
  · rw [peek_eq, hleft, hafter]
  · intro hnone
    rw [Monitor.lasting_eq_self (by rwa [show reached.toMonitor.rule = r from hrule]),
      hbefore, Except.ok.injEq] at hdue
    exact hdue.symm

/-- A matrix instruction that accumulates into the sixteen registers from `first` on. -/
def accumulate (passes first : Int64) : Instruction :=
  let registers : Register := ⟨.accumulation, first, 16⟩
  .mfma "" passes registers ⟨.vector, 0, 2⟩ ⟨.vector, 2, 2⟩ registers

/-- Moves one accumulated result to a vector register. -/
def fetch (index : Int64) : Instruction :=
  .accRead ⟨.vector, 40, 1⟩ ⟨.accumulation, index, 1⟩

-- The short instruction replaces the first window; what the second asks for goes on to decay.
theorem commit_keeps_lasting_otherRegisters :
    let reached := follow { rule := Catalogue.write908 } [accumulate 16 0, accumulate 16 16]
    (reached.toMonitor.lasting (accumulate 2 0)).peek (fetch 16) = .ok 18 ∧
      ∃ after, (reached.commit (accumulate 2 0) 0).2.peek (fetch 16) = .ok after ∧
        17 ≤ after.toInt := by
  intro reached
  have howed : reached.peek (accumulate 2 0) = .ok 0 := by decide +kernel
  have hcommit : reached.commit (accumulate 2 0) 0 =
      (.ok (), (reached.commit (accumulate 2 0) 0).2) := Prod.ext (by decide +kernel) rfl
  have hlasting : (reached.toMonitor.lasting (accumulate 2 0)).peek (fetch 16) = .ok 18 := by
    decide +kernel
  obtain ⟨_, due, after, _, hdue, hafter, hbound, _⟩ := commit_keeps_lasting
    (List.mem_of_getElem? (rfl : Catalogue.rules[3]? = some Catalogue.write908)) (by decide)
    (by decide) howed (Int64.le_refl 0) (by decide) hcommit (fetch 16)
  rw [hlasting, Except.ok.injEq] at hdue
  subst hdue
  exact ⟨hlasting, after, hafter, hbound⟩

/-- What a long trigger requires is given up once a shorter one takes its place: two passes are
committed behind sixteen over the same registers, and a result that was eighteen wait states away is
then four away. -/
theorem commit_forgets_longer_trigger :
    let reached := follow { rule := Catalogue.write908 } [accumulate 16 0]
    let committed := reached.commit (accumulate 2 0) 0
    Catalogue.write908 ∈ Catalogue.rules ∧ Catalogue.write908.policy = .persist ∧
      (accumulate 16 0).defect? = none ∧ (accumulate 2 0).defect? = none ∧
      reached.peek (accumulate 2 0) = .ok 0 ∧ committed.1 = .ok () ∧
      ∃ before after, reached.peek (fetch 0) = .ok before ∧
        committed.2.peek (fetch 0) = .ok after ∧
        after.toInt < max 0 (before.toInt - 0 - (accumulate 2 0).waitStates.toInt) := by
  refine ⟨List.mem_of_getElem? (rfl : Catalogue.rules[3]? = some Catalogue.write908), rfl,
    by decide, by decide, by decide +kernel, by decide +kernel, 18, 4, by decide +kernel,
    by decide +kernel, by decide⟩

end Residue

end Interlock
