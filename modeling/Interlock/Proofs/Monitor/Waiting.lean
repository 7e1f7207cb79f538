import Interlock.Proofs.Monitor.Ages

/-! # Waiting

A no-op conflicts with nothing and opens nothing; it only lets time pass. What a conflict is owed
after it is what was owed before less the wait states of the no-op, and nothing if these are more.
That is so as long as the age of no open window leaves the range of a word. A window that has some
age and then waits for the longest no-op is negative in age, and asks for almost a whole word.
-/

namespace Interlock

theorem Instruction.classDefect?_eq_none {inst : Instruction} (hvalid : inst.defect? = none) :
    inst.classDefect? = none := by
  unfold defect? at hvalid
  split at hvalid
  next => cases hvalid
  next =>
    split at hvalid
    next => cases hvalid
    next =>
      split at hvalid
      next => cases hvalid
      next hnone => exact hnone

theorem Instruction.operands_of_nop {inst : Instruction} (hop : inst.op = .nop)
    (hvalid : inst.defect? = none) : inst.dst = [] ∧ inst.src = [] := by
  have hclass := classDefect?_eq_none hvalid
  by_contra hoperands
  rw [not_and_or] at hoperands
  simp [classDefect?, hop, hoperands] at hclass

namespace Monitor

variable {m : Monitor} {inst conflict : Instruction} {w : Window} {need : Option Int64}

/-- Ageing a window takes the slots off what it asks for. -/
theorem Exact.toInt_lack_aged (hm : m.Exact) (hw : w ∈ m.windows)
    (hcheck : m.rule.check w conflict = .ok need) {slots : Int64} (hslots : 0 ≤ slots)
    (hfits : w.elapsed.toInt + slots.toInt < 2 ^ 63) :
    (Rule.lack need (w.aged slots)).toInt =
      max 0 ((Rule.lack need w).toInt - slots.toInt) := by
  have hage := Word.toInt_nonneg.mp (hm.young w hw).nonneg
  rw [Word.toInt_nonneg] at hslots
  cases need with
  | none =>
      simp only [Rule.lack, Int64.toInt_zero]
      omega
  | some n =>
      have hn := (hm.sound.check_range (hm.admits w hw) hcheck).1
      have hsum : (w.elapsed + slots).toInt = w.elapsed.toInt + slots.toInt :=
        Word.toInt_add (by omega) hfits
      have haged : 0 ≤ (w.aged slots).elapsed :=
        Word.toInt_nonneg.mpr (by rw [Window.aged_elapsed, hsum]; omega)
      rw [hm.toInt_lack hw hcheck]
      simp only [Rule.lack]
      rw [Window.toInt_remaining haged hn, Window.aged_elapsed, hsum]
      omega

theorem Exact.lack_of_inert (hm : m.Exact) (hw : w ∈ m.windows)
    (hcheck : m.rule.check w conflict = .ok need) {slots : Int64}
    (hinert : (w.aged slots).inert = true) : Rule.lack need (w.aged slots) = 0 := by
  cases need with
  | none => rfl
  | some n =>
      obtain ⟨hn, hsize⟩ := hm.sound.check_range (hm.admits w hw) hcheck
      have hage : n ≤ (w.aged slots).elapsed := Int64.le_trans hsize (of_decide_eq_true hinert)
      have hlack := Window.toInt_remaining (Int64.le_trans hn hage) hn
      rw [Int64.le_iff_toInt_le] at hage
      rw [← Int64.toInt_inj, Int64.toInt_zero, Rule.lack, hlack]
      omega

/-- The windows that are left once a no-op was committed. -/
theorem Exact.mem_waited_iff (hm : m.Exact) (hop : inst.op = .nop) (hdst : inst.dst = [])
    (hsrc : inst.src = []) {v : Window} :
    v ∈ (m.settled inst 0).windows ↔
      ∃ w ∈ m.windows, (w.aged inst.waitStates).inert = false ∧ v = w.aged inst.waitStates := by
  have hopened : m.rule.opened inst = none := by
    simp only [Rule.opened, Rule.opening_of_no_operands hdst hsrc]
  simp only [Monitor.settled, hopened, Window.adopt, List.mem_filterMap]
  refine exists_congr fun w => and_congr_right fun hw => ?_
  rw [Rule.survivor_of_check (hm.sound.check_idle (hm.admits w hw) hop hsrc) (Or.inl rfl),
    Int64.zero_add, Option.isSome_none, Bool.false_and, Bool.false_or]
  split
  next hinert => simp [hinert]
  next hopen =>
    rw [Bool.not_eq_true] at hopen
    rw [Option.some.injEq, eq_comm, hopen]
    simp

theorem Exact.exists_peek_waited (hm : m.Exact) (hop : inst.op = .nop) (hdst : inst.dst = [])
    (hsrc : inst.src = []) (conflict : Instruction) :
    ∃ after, (m.settled inst 0).peek conflict = .ok after := by
  refine hm.sound.exists_peek ?_ conflict
  intro v hv
  obtain ⟨w, hw, _, rfl⟩ := (hm.mem_waited_iff hop hdst hsrc).mp hv
  exact (hm.admits w hw).aged _

section Waited

variable (hm : m.Exact) (hop : inst.op = .nop) (hdst : inst.dst = []) (hsrc : inst.src = [])
  (hfits : ∀ w ∈ m.windows, w.elapsed.toInt + inst.waitStates.toInt < 2 ^ 63) {before after : Int64}
  (hbefore : m.peek conflict = .ok before) (hafter : (m.settled inst 0).peek conflict = .ok after)

include hm hop hdst hsrc hfits hbefore hafter

theorem Exact.peek_waited_le : after.toInt ≤ max 0 (before.toInt - inst.waitStates.toInt) := by
  rcases (Rule.owedAfter_spec hafter).2.2 with rfl | ⟨v, hv, howed⟩
  · exact Int.le_max_left _ _
  · obtain ⟨w, hw, _, rfl⟩ := (hm.mem_waited_iff hop hdst hsrc).mp hv
    obtain ⟨need, hcheck, hlack⟩ := lack_le_of_peek hbefore (Int64.le_refl before) hw
    have hlater : m.rule.check (w.aged inst.waitStates) conflict = .ok need := by
      rw [hm.sound.check_aged (hm.admits w hw), hcheck]
    rw [settled_rule, Rule.owedTo_of_check hlater, Except.ok.injEq] at howed
    rw [← howed, hm.toInt_lack_aged hw hcheck inst.waitStates_nonneg (hfits w hw)]
    rw [Int64.le_iff_toInt_le] at hlack
    omega

theorem Exact.le_peek_waited : max 0 (before.toInt - inst.waitStates.toInt) ≤ after.toInt := by
  have hnonneg := Word.toInt_nonneg.mp (peek_nonneg hafter)
  rcases (Rule.owedAfter_spec hbefore).2.2 with rfl | ⟨w, hw, howed⟩
  · have hone := inst.one_le_waitStates
    rw [Int64.toInt_zero]
    omega
  · obtain ⟨need, hcheck, _⟩ := hm.sound.check_eq (hm.admits w hw) conflict
    rw [Rule.owedTo_of_check hcheck, Except.ok.injEq] at howed
    rw [← howed, ← hm.toInt_lack_aged hw hcheck inst.waitStates_nonneg (hfits w hw)]
    -- The window that asked for most is still there, or has nothing left to ask for.
    by_cases hinert : (w.aged inst.waitStates).inert = true
    · rw [hm.lack_of_inert hw hcheck hinert, Int64.toInt_zero]
      exact hnonneg
    · rw [Bool.not_eq_true] at hinert
      have hstays := (hm.mem_waited_iff hop hdst hsrc).mpr ⟨w, hw, hinert, rfl⟩
      obtain ⟨need', hcheck', hlack⟩ := lack_le_of_peek hafter (Int64.le_refl after) hstays
      rw [settled_rule, hm.sound.check_aged (hm.admits w hw), hcheck, Except.ok.injEq] at hcheck'
      rw [← hcheck', Int64.le_iff_toInt_le] at hlack
      exact hlack

end Waited

end Monitor

namespace Residue

/-- As long as no age leaves the range of a word, a no-op takes its wait states off what any
instruction is owed, which is never more than the largest size of the rule. -/
theorem waiting_relieves {r : Rule} (hr : r ∈ Catalogue.rules) (insts : List Instruction)
    {nop : Instruction} (hop : nop.op = .nop) (hvalid : nop.defect? = none)
    (hages : ∀ w ∈ (follow { rule := r } insts).windows,
      0 ≤ w.elapsed ∧ w.elapsed.toInt + nop.waitStates.toInt < 2 ^ 63) (conflict : Instruction) :
    let reached := follow { rule := r } insts
    ∃ left before after, reached.commit nop 0 = (.ok (), left) ∧
      reached.peek conflict = .ok before ∧ left.peek conflict = .ok after ∧
      0 ≤ after ∧ after ≤ before ∧ before ≤ r.sizes.max ∧
      after.toInt = max 0 (before.toInt - nop.waitStates.toInt) := by
  intro reached
  have hsound := Catalogue.rules_sound r hr
  obtain ⟨hdst, hsrc⟩ := Instruction.operands_of_nop hop hvalid
  obtain ⟨htidy, hopen, hrule⟩ := follow_open hsound insts
  have hrule : reached.toMonitor.rule = r := hrule
  have hexact : reached.toMonitor.Exact := by
    refine ⟨hrule.symm ▸ hsound, fun w hw => hrule.symm ▸ (hopen w hw).1, fun w hw => ?_⟩
    have hlt := Int64.not_le.mp (of_decide_eq_false (hopen w hw).2)
    exact ⟨(hages w hw).1, hlt, (hsound.size_range (hopen w hw).1).2⟩
  have howed : reached.peek nop = .ok 0 := by
    refine Rule.owedAfter_eq_of_le fun w hw => ⟨0, ?_, Int64.le_refl 0⟩
    exact Rule.owedTo_of_check (hexact.sound.check_idle (hexact.admits w hw) hop hsrc)
  obtain ⟨left, hcommit, _, hleft⟩ := htidy.commit howed (Int64.le_refl 0)
  rw [Rule.opening_of_no_operands hdst hsrc] at hcommit
  obtain ⟨before, hbefore⟩ := hexact.exists_peek conflict
  obtain ⟨after, hafter⟩ := hexact.exists_peek_waited hop hdst hsrc conflict
  have hfits := fun w hw => (hages w hw).2
  have hvalue := Int.le_antisymm (hexact.peek_waited_le hop hdst hsrc hfits hbefore hafter)
    (hexact.le_peek_waited hop hdst hsrc hfits hbefore hafter)
  have hle : after ≤ before := by
    have hleast := Word.toInt_nonneg.mp (Monitor.peek_nonneg hbefore)
    have hone := nop.one_le_waitStates
    rw [Int64.le_iff_toInt_le, hvalue]
    omega
  refine ⟨left, before, after, hcommit, hbefore, ?_, Monitor.peek_nonneg hafter, hle,
    hrule ▸ hexact.peek_le_max hbefore, hvalue⟩
  rw [peek_eq, hleft, hafter]

-- The longest no-op of all, right behind the trigger: its age is then the largest word.
theorem waiting_relieves_longest :
    let reached := follow { rule := Catalogue.write908 } [accumulate 16 0]
    ∃ left after, reached.commit (.nop Int64.maxValue) 0 = (.ok (), left) ∧
      reached.peek (fetch 0) = .ok 18 ∧ left.peek (fetch 0) = .ok after ∧ after.toInt = 0 := by
  intro reached
  have hbefore : reached.peek (fetch 0) = .ok 18 := by decide +kernel
  have hvalid : (Instruction.nop Int64.maxValue).defect? = none := by decide
  obtain ⟨left, before, after, hcommit, hpeek, hafter, _, _, _, hvalue⟩ := waiting_relieves
    Catalogue.write908_mem_rules [accumulate 16 0] rfl hvalid (by decide +kernel) (fetch 0)
  rw [hbefore, Except.ok.injEq] at hpeek
  subst hpeek
  exact ⟨left, after, hcommit, hbefore, hafter, hvalue⟩

/-- A window of age two waits for the longest no-op and its age wraps around. The instruction that
accumulates further was owed nothing before, and is owed the largest word after. -/
theorem waiting_wraps_age :
    let reached := follow { rule := Catalogue.write908 } [accumulate 16 0, .nop 2]
    let waited := reached.commit (.nop Int64.maxValue) 0
    Catalogue.write908 ∈ Catalogue.rules ∧
      (∀ inst ∈ [accumulate 16 0, .nop 2, .nop Int64.maxValue], inst.defect? = none) ∧
      reached.windows.map (·.elapsed) = [2] ∧ waited.1 = .ok () ∧
      waited.2.windows.map (·.elapsed) = [Int64.minValue + 1] ∧
      reached.peek (accumulate 16 0) = .ok 0 ∧
      waited.2.peek (accumulate 16 0) = .ok Int64.maxValue := by
  exact ⟨Catalogue.write908_mem_rules, by decide, by decide +kernel, by decide +kernel,
    by decide +kernel, by decide +kernel, by decide +kernel⟩

end Residue

end Interlock
