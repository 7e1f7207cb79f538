import Interlock.Proofs.Monitor.Replacement

/-! # The ages of open windows

All windows age by the same number of slots, and a new one starts at zero while the others are past
it. So no two open windows are of the same age. Ages stay below the sizes of the windows, which
bounds how many can be open at once, however long the stream is.
-/

namespace Interlock

namespace Window

theorem pairwise_place {related : Window → Window → Prop}
    (hsymm : ∀ w v, related w v → related v w) {new : Window} {windows : List Window}
    (hnew : ∀ w ∈ windows, related new w) (h : windows.Pairwise related) :
    (new.place windows).Pairwise related := by
  induction windows with
  | nil => exact List.pairwise_singleton related new
  | cons old rest ih =>
      obtain ⟨hold, hrest⟩ := List.pairwise_cons.mp h
      obtain ⟨hnewOld, hnewRest⟩ := List.forall_mem_cons.mp hnew
      unfold place
      split
      next => exact List.pairwise_cons.mpr ⟨hnewRest, hrest⟩
      next =>
        refine List.pairwise_cons.mpr ⟨?_, ih hnewRest hrest⟩
        intro w hw
        rcases mem_of_mem_place hw with rfl | hw
        · exact hsymm _ _ hnewOld
        · exact hold w hw

theorem pairwise_adopt {related : Window → Window → Prop}
    (hsymm : ∀ w v, related w v → related v w) {opened : Option Window} {windows : List Window}
    (hnew : ∀ new ∈ opened, ∀ w ∈ windows, related new w) (h : windows.Pairwise related) :
    (adopt opened windows).Pairwise related := by
  cases opened with
  | none => exact h
  | some new => exact pairwise_place hsymm (hnew new rfl) h

/-- No two windows are of the same age. -/
def Staggered (windows : List Window) : Prop :=
  windows.Pairwise fun w v => w.elapsed ≠ v.elapsed

/-- Windows that age together stay apart. -/
theorem Staggered.survivors {windows : List Window} (h : Staggered windows) (r : Rule)
    (inst : Instruction) (padding : Int64) :
    Staggered (windows.filterMap (r.survivor inst padding)) := by
  refine List.Pairwise.filterMap _ ?_ h
  intro w v hpair w' hw' v' hv'
  obtain ⟨rfl, _⟩ := Rule.survivor_eq_some hw'
  obtain ⟨rfl, _⟩ := Rule.survivor_eq_some hv'
  intro hsame
  rw [aged_elapsed, aged_elapsed, Int64.add_left_inj] at hsame
  exact hpair hsame

/-- Windows of different ages below a limit are no more than the limit. -/
theorem Staggered.length_le {windows : List Window} (h : Staggered windows) {limit : Int64}
    (hages : ∀ w ∈ windows, 0 ≤ w.elapsed ∧ w.elapsed < limit) :
    windows.length ≤ limit.toInt.toNat := by
  have hnonneg : ∀ w ∈ windows, 0 ≤ w.elapsed.toInt :=
    fun w hw => Word.toInt_nonneg.mp (hages w hw).1
  have hnodup : (windows.map (·.elapsed.toInt.toNat)).Nodup := by
    refine List.pairwise_map.mpr (h.imp_of_mem ?_)
    intro w v hw hv hpair hsame
    apply hpair
    rw [← Int64.toInt_inj, ← Int.toNat_of_nonneg (hnonneg w hw), hsame,
      Int.toNat_of_nonneg (hnonneg v hv)]
  have hsubset : windows.map (·.elapsed.toInt.toNat) ⊆ List.range limit.toInt.toNat := by
    intro n hn
    obtain ⟨w, hw, rfl⟩ := List.mem_map.mp hn
    have hlow := hnonneg w hw
    have hhigh := Int64.lt_iff_toInt_lt.mp (hages w hw).2
    exact List.mem_range.mpr ((Int.toNat_lt_toNat (by omega)).mpr hhigh)
  have hlength := (List.subperm_of_subset hnodup hsubset).length_le
  rwa [List.length_map, List.length_range] at hlength

end Window

/-! ## What a commit keeps -/

namespace Monitor

variable {m : Monitor} {inst : Instruction} {owed padding : Int64}

/-- A monitor with exact ages whose windows differ in their registers and in their ages. -/
structure Spaced (m : Monitor) : Prop where
  exact : m.Exact
  regs_ne_nil : ∀ w ∈ m.windows, w.regs ≠ []
  distinct : Window.Distinct m.windows
  staggered : Window.Staggered m.windows

theorem Spaced.fresh {rule : Rule} (hrule : rule.Sound) : Spaced { rule } :=
  ⟨.fresh hrule, fun _ hw => absurd hw List.not_mem_nil, List.Pairwise.nil, List.Pairwise.nil⟩

/-- A window that survives a commit has some age. -/
theorem Exact.survivor_elapsed_ne_zero (hm : m.Exact) (hnonneg : 0 ≤ padding)
    (hslots : padding.toInt + inst.waitStates.toInt + 20 < 2 ^ 63) {old w : Window}
    (hold : old ∈ m.windows) (hsurvivor : m.rule.survivor inst padding old = some w) :
    w.elapsed ≠ 0 := by
  obtain ⟨rfl, _⟩ := Rule.survivor_eq_some hsurvivor
  obtain ⟨hlow, hsum⟩ := Instruction.toInt_slots hnonneg hslots
  have hyoung := hm.young old hold
  have hage := Word.toInt_nonneg.mp hyoung.nonneg
  have hadded := Word.toInt_nonneg.mp hnonneg
  have hone := inst.one_le_waitStates
  rw [ne_eq, ← Int64.toInt_inj, Window.aged_elapsed,
    hyoung.toInt_elapsed_add hlow (by omega), hsum, Int64.toInt_zero]
  omega

theorem Spaced.settled (hm : m.Spaced) (hnonneg : 0 ≤ padding)
    (hslots : padding.toInt + inst.waitStates.toInt + 20 < 2 ^ 63) :
    (m.settled inst padding).Spaced := by
  refine ⟨hm.exact.settled hnonneg hslots, ?_, ?_, ?_⟩
  · intro w hw
    rcases of_mem_settled hw with hopening | ⟨old, hold, rfl, _⟩
    · obtain ⟨_, hregs, _, _, _, rfl⟩ := hm.exact.sound.opening_eq_some_iff.mp hopening
      exact hregs
    · exact hm.regs_ne_nil old hold
  · exact (hm.distinct.survivors m.rule inst padding).adopt (m.rule.opened inst)
  · -- The new window is of age zero, and it is the only one.
    have hkept := hm.staggered.survivors m.rule inst padding
    refine Window.pairwise_adopt (fun _ _ => Ne.symm) ?_ hkept
    intro new hnew w hw
    obtain ⟨_, _, _, _, _, rfl⟩ :=
      hm.exact.sound.opening_eq_some_iff.mp (Rule.opening_of_opened hnew)
    obtain ⟨old, hold, hsurvivor⟩ := List.mem_filterMap.mp hw
    exact (hm.exact.survivor_elapsed_ne_zero hnonneg hslots hold hsurvivor).symm

end Monitor

/-! ## Accepted commits -/

namespace Residue

/-- What accepted commits of valid instructions lead to, with padding that covers what is asked for
and counts that stay clear of the bounds of a word. -/
inductive Reached (rule : Rule) : Residue → Prop where
  | start : Reached rule { rule }
  | commit {reached left : Residue} {inst : Instruction} {owed padding : Int64} :
      Reached rule reached → inst.defect? = none → (inst.op = .nop → inst.count.toInt ≤ 2 ^ 61) →
      reached.peek inst = .ok owed → owed ≤ padding → padding.toInt ≤ 2 ^ 61 →
      reached.commit inst padding = (.ok (), left) → Reached rule left

theorem Reached.spaced {r : Rule} (hr : r.Sound) {reached : Residue} (h : Reached r reached) :
    reached.Tidy ∧ reached.toMonitor.Spaced ∧ reached.rule = r := by
  induction h with
  | start => exact ⟨.fresh r, .fresh hr, rfl⟩
  | @commit reached left inst owed padding _ _ hcount howed hle hpadding hcommit ih =>
      obtain ⟨htidy, hspaced, hrule⟩ := ih
      obtain ⟨htidy', hleft⟩ := htidy.of_commit howed hle hcommit
      have hnonneg : 0 ≤ padding :=
        Int64.le_trans (Monitor.peek_nonneg (m := reached.toMonitor) howed) hle
      have hwait := Instruction.waitStates_le fun hop => (hcount hop).trans (by norm_num)
      refine ⟨htidy', ?_, (congrArg Monitor.rule hleft).trans hrule⟩
      rw [hleft]
      exact hspaced.settled hnonneg (by omega)

/-- Every open window is one of the rule's, over some registers and younger than its size. No two
are over the same registers or of the same age, so that there are no more of them than the rule's
largest size, which also bounds the padding of every instruction. -/
theorem open_windows_bounded {r : Rule} (hr : r ∈ Catalogue.rules) {reached : Residue}
    (h : Reached r reached) :
    (∀ w ∈ reached.windows, w.regs ≠ [] ∧ w.latencyClass ∈ r.sizes.classes ∧
      r.sizes.lookup? w.latencyClass = some w.size ∧ 0 < w.size ∧ 0 ≤ w.elapsed ∧
      w.elapsed < w.size) ∧
    reached.windows.Pairwise (fun w v => Window.sameRanges w.regs v.regs = false) ∧
    reached.windows.Pairwise (fun w v => w.elapsed ≠ v.elapsed) ∧
    reached.windows.length ≤ r.sizes.max.toInt ∧
    ∀ inst, ∃ owed, reached.peek inst = .ok owed ∧ 0 ≤ owed ∧ owed ≤ r.sizes.max := by
  obtain ⟨_, hspaced, hrule⟩ := h.spaced (Catalogue.rules_sound r hr)
  have hexact := hspaced.exact
  have hadmits : ∀ w ∈ reached.windows, r.Admits w := hrule ▸ hexact.admits
  refine ⟨?_, hspaced.distinct, hspaced.staggered, ?_, ?_⟩
  · intro w hw
    have hyoung := hexact.young w hw
    have hclass := LatencyTable.exists_lookup_iff.mp ⟨w.size, hadmits w hw⟩
    exact ⟨hspaced.regs_ne_nil w hw, hclass, hadmits w hw,
      Int64.lt_of_le_of_lt hyoung.nonneg hyoung.lt_size, hyoung.nonneg, hyoung.lt_size⟩
  · have hages : ∀ w ∈ reached.windows, 0 ≤ w.elapsed ∧ w.elapsed < r.sizes.max := by
      intro w hw
      have hyoung := hexact.young w hw
      exact ⟨hyoung.nonneg,
        Int64.lt_of_lt_of_le hyoung.lt_size (LatencyTable.le_max_of_lookup (hadmits w hw))⟩
    have hlength : reached.windows.length ≤ r.sizes.max.toInt.toNat :=
      hspaced.staggered.length_le hages
    have hmax := Word.toInt_nonneg.mp r.sizes.max_nonneg
    omega
  · intro inst
    obtain ⟨owed, howed⟩ := hexact.exists_peek inst
    have hmax := hexact.peek_le_max howed
    exact ⟨owed, howed, Monitor.peek_nonneg howed, hrule ▸ hmax⟩

-- The second trigger is padded by more than it needs, and the first window is five slots ahead.
theorem open_windows_bounded_twoTriggers :
    let first := (({ rule := Catalogue.write908 } : Residue).commit (accumulate 16 0) 0).2
    let second := (first.commit (accumulate 16 16) 4).2
    second.windows.map (·.elapsed) = [5, 0] ∧ second.windows.length ≤ (18 : Int) ∧
      ∃ owed, second.peek (fetch 16) = .ok owed ∧ owed ≤ 18 := by
  intro first second
  have hstart : ({ rule := Catalogue.write908 } : Residue).peek (accumulate 16 0) = .ok 0 := by
    decide +kernel
  have hfirst : Reached Catalogue.write908 first :=
    .commit .start (by decide) (by decide) hstart (Int64.le_refl 0) (by decide)
      (Prod.ext (by decide +kernel) rfl)
  have howed : first.peek (accumulate 16 16) = .ok 0 := by decide +kernel
  have hsecond : Reached Catalogue.write908 second :=
    .commit hfirst (by decide) (by decide) howed (by decide : (0 : Int64) ≤ 4) (by decide)
      (Prod.ext (by decide +kernel) rfl)
  obtain ⟨_, _, _, hlength, hpeek⟩ :=
    open_windows_bounded Catalogue.write908_mem_rules hsecond
  have hmax : Catalogue.write908.sizes.max = 18 := by decide
  rw [hmax] at hlength hpeek
  obtain ⟨owed, howed, _, hle⟩ := hpeek (fetch 16)
  exact ⟨by decide +kernel, hlength, owed, howed, hle⟩

end Residue

end Interlock
