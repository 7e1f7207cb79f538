import Interlock.Proofs.Catalogue.Sound
import Interlock.Proofs.Word

/-! # The write rules of two generations

The tables of the write rule for gfx950 are those for gfx942 with one wait state more in every
entry. A requirement is the largest of several, of which that of an identical addend is zero in both
generations. So gfx950 sees the conflicts that gfx942 sees, and needs one wait state more wherever
gfx942 needs any.
-/

namespace Interlock.Catalogue

/-- One wait state more, where any is needed. -/
def oneMore (n : Int64) : Int64 :=
  if n = 0 then 0 else n + 1

theorem toInt_oneMore {n : Int64} (hn : 0 ≤ n ∧ n ≤ 20) :
    (oneMore n).toInt = if n = 0 then 0 else n.toInt + 1 := by
  obtain ⟨hnonneg, hle⟩ := hn
  rw [Int64.le_iff_toInt_le, Int64.toInt_zero] at hnonneg
  rw [Int64.le_iff_toInt_le, show (20 : Int64).toInt = 20 from rfl] at hle
  unfold oneMore
  split
  next => rfl
  next => exact Word.toInt_add (by simp; omega) (by simp; omega)

theorem oneMore_lt_iff {m n : Int64} (hm : 0 ≤ m ∧ m ≤ 20) (hn : 0 ≤ n ∧ n ≤ 20) :
    oneMore m < oneMore n ↔ m < n := by
  have hzero : ∀ k : Int64, k = 0 ↔ k.toInt = 0 := fun k => by
    rw [← Int64.toInt_inj, Int64.toInt_zero]
  rw [Int64.lt_iff_toInt_lt, Int64.lt_iff_toInt_lt, toInt_oneMore hm, toInt_oneMore hn]
  simp only [Int64.le_iff_toInt_le, Int64.toInt_zero] at hm hn
  simp only [hzero]
  split <;> split <;> omega

theorem le_oneMore {n : Int64} (hn : 0 ≤ n ∧ n ≤ 20) : n ≤ oneMore n := by
  rw [Int64.le_iff_toInt_le, toInt_oneMore hn]
  split
  next hzero => simp [hzero]
  next => omega

/-! ## The largest requirement -/

/-- What keeps the order of some requirements keeps their maximum the maximum. -/
theorem largest?_map {f : Int64 → Int64} {needs : List Int64}
    (hf : ∀ m ∈ needs, ∀ n ∈ needs, f m < f n ↔ m < n) :
    largest? (needs.map f) = (largest? needs).map f := by
  induction needs with
  | nil => rfl
  | cons n rest ih =>
      have hrest := ih fun m hm k hk =>
        hf m (List.mem_cons_of_mem n hm) k (List.mem_cons_of_mem n hk)
      simp only [List.map_cons, largest?, hrest]
      cases hlargest : largest? rest with
      | none => rfl
      | some m =>
          have hm : m ∈ n :: rest := List.mem_cons_of_mem n (largest?_spec hlargest).1
          simp only [Option.map_some, hf n List.mem_cons_self m hm, apply_ite f]

/-- The dependences of a matrix instruction do not depend on what they cost. -/
theorem matrixNeeds_map (f : Int64 → Int64) (w : Window) (inst : Instruction)
    (same overlapped factor : Int64) :
    (matrixNeeds w inst same overlapped factor).map f =
      matrixNeeds w inst (f same) (f overlapped) (f factor) := by
  simp only [matrixNeeds, List.map_append, List.map_filterMap, apply_ite (Option.map f),
    Option.map_some, Option.map_none, apply_ite f]

theorem largest?_matrixNeeds_oneMore {w : Window} {inst : Instruction} {overlapped factor : Int64}
    (hover : 0 ≤ overlapped ∧ overlapped ≤ 20) (hfactor : 0 ≤ factor ∧ factor ≤ 20) :
    largest? (matrixNeeds w inst 0 (oneMore overlapped) (oneMore factor)) =
      (largest? (matrixNeeds w inst 0 overlapped factor)).map oneMore := by
  have hrange : ∀ n ∈ matrixNeeds w inst 0 overlapped factor, 0 ≤ n ∧ n ≤ 20 := by
    intro n hn
    rcases mem_matrixNeeds.mp hn with ⟨c, _, _, rfl⟩ | ⟨r, _, _, rfl⟩
    · split
      · decide
      · exact hover
    · exact hfactor
  rw [← largest?_map fun m hm n hn => oneMore_lt_iff (hrange m hm) (hrange n hn), matrixNeeds_map]
  rfl

/-! ## The rules -/

/-- On a known pass count, each table of gfx950 asks for one more than that of gfx942. -/
theorem oneMore_passes : ∀ c ∈ passCounts,
    oneMore (c + 1) = c + 2 ∧ oneMore (c + 3) = c + 4 ∧ (0 ≤ c + 1 ∧ c + 1 ≤ 20) ∧
      (0 ≤ c + 3 ∧ c + 3 ≤ 20) := by
  intro c hc
  simp only [passCounts, List.mem_cons, List.not_mem_nil, or_false] at hc
  rcases hc with rfl | rfl | rfl | rfl <;> decide

theorem lookup?_passCounts {offset c : Int64} (hc : c ∈ passCounts) :
    (LatencyTable.linear offset passCounts).lookup? c = some (c + offset) := by
  rw [LatencyTable.lookup?_linear, if_pos hc]

theorem lookup?_passCounts_eq_none {offset c : Int64} (hc : c ∉ passCounts) :
    (LatencyTable.linear offset passCounts).lookup? c = none := by
  rw [LatencyTable.lookup?_linear, if_neg hc]

/-- A judgement does not look at the size of a window. -/
theorem MatrixLatencies.hazard_opened (t : MatrixLatencies) (trigger : Instruction)
    (regs : List Register) (size size' : Int64) (inst : Instruction) :
    t.hazard (.opened trigger regs size) inst = t.hazard (.opened trigger regs size') inst := rfl

theorem write950_hazard {w : Window} (hclass : w.latencyClass ∈ passCounts) {inst : Instruction}
    {need : Option Int64} (h : write94xLatencies.hazard w inst = .ok need) :
    write950Latencies.hazard w inst = .ok (need.map oneMore) := by
  obtain ⟨hover, hfactor, hoverRange, hfactorRange⟩ := oneMore_passes _ hclass
  by_cases hop : inst.op = .mfma
  · rw [MatrixLatencies.hazard_of_matrix hop (lookup?_passCounts hclass)
      (lookup?_passCounts hclass), Except.ok.injEq] at h
    rw [MatrixLatencies.hazard_of_matrix hop (lookup?_passCounts hclass)
      (lookup?_passCounts hclass), ← hover, ← hfactor,
      largest?_matrixNeeds_oneMore hoverRange hfactorRange, h]
  · have hother : write94xLatencies.other.lookup? w.latencyClass = some (w.latencyClass + 3) :=
      lookup?_passCounts hclass
    have hother' : write950Latencies.other.lookup? w.latencyClass = some (w.latencyClass + 4) :=
      lookup?_passCounts hclass
    simp only [MatrixLatencies.hazard, hop, if_false, whenever] at h ⊢
    split
    next hconflict =>
      rw [if_pos hconflict, latency_eq_ok hother] at h
      cases h
      rw [latency_eq_ok hother', ← hfactor]
      rfl
    next hconflict =>
      rw [if_neg hconflict] at h
      cases h
      rfl

/-- Between any two instructions, gfx950 fails where gfx942 does, sees the same conflicts, and needs
one wait state more where any is needed. -/
theorem write950_separation_cases (trigger conflict : Instruction) :
    (∃ e e', write94x.separation trigger conflict = .error e ∧
        write950.separation trigger conflict = .error e') ∨
      ∃ need, write94x.separation trigger conflict = .ok need ∧
        write950.separation trigger conflict = .ok (need.map oneMore) := by
  have htriggers : write950.triggers trigger = write94x.triggers trigger := rfl
  have hregs : write950.trackedRegs trigger = write94x.trackedRegs trigger := rfl
  rw [write950_sound.separation_eq, write94x_sound.separation_eq, htriggers, hregs]
  split
  next =>
    unfold Rule.sizeFor
    by_cases hclass : trigger.passes ∈ passCounts
    · right
      have hsize : write94x.sizes.lookup? trigger.passes = some (trigger.passes + 3) :=
        lookup?_passCounts hclass
      have hsize' : write950.sizes.lookup? trigger.passes = some (trigger.passes + 4) :=
        lookup?_passCounts hclass
      obtain ⟨need, hcheck, hjudge, _⟩ := write94x_sound.check_eq
        (w := .opened trigger (write94x.trackedRegs trigger) (trigger.passes + 3)) hsize conflict
      obtain ⟨need', hcheck', hjudge', _⟩ := write950_sound.check_eq
        (w := .opened trigger (write94x.trackedRegs trigger) (trigger.passes + 4)) hsize' conflict
      -- The windows of the two rules differ in their sizes alone.
      change write950Latencies.hazard _ _ = _ at hjudge'
      rw [MatrixLatencies.hazard_opened _ _ _ _ (trigger.passes + 3), write950_hazard hclass hjudge,
        Except.ok.injEq] at hjudge'
      simp only [hsize, hsize', hcheck, hcheck', ← hjudge']
      exact ⟨need, rfl, rfl⟩
    · left
      have hsize : write94x.sizes.lookup? trigger.passes = none :=
        lookup?_passCounts_eq_none hclass
      have hsize' : write950.sizes.lookup? trigger.passes = none :=
        lookup?_passCounts_eq_none hclass
      simp only [hsize, hsize']
      exact ⟨_, _, rfl, rfl⟩
  next => exact Or.inr ⟨none, rfl, rfl⟩

theorem write950_separation_of_some {trigger conflict : Instruction} {n : Int64}
    (hn : write94x.separation trigger conflict = .ok (some n)) :
    write950.separation trigger conflict = .ok (some (oneMore n)) := by
  rcases write950_separation_cases trigger conflict with ⟨_, _, herror, _⟩ | ⟨need, hneed, hmore⟩
  · rw [hn] at herror
    contradiction
  · rw [hn, Except.ok.injEq] at hneed
    rw [hmore, ← hneed]
    rfl

theorem opens_iff_of_passCounts {r : Rule} {offset : Int64}
    (hsizes : r.sizes = .linear offset passCounts) (hpos : r.sizes.Within 1 20)
    (inst : Instruction) :
    r.Opens inst ↔ r.triggers inst = true ∧ inst.passes ∈ passCounts := by
  unfold Rule.Opens Rule.sizeFor
  by_cases hclass : inst.passes ∈ passCounts
  · have hsize : r.sizes.lookup? inst.passes = some (inst.passes + offset) := by
      rw [hsizes, lookup?_passCounts hclass]
    have hsizePos : 0 < inst.passes + offset :=
      Int64.lt_of_lt_of_le (by decide) (hpos.of_lookup hsize).1
    simp [hsize, hclass, hsizePos]
  · simp [hsizes, lookup?_passCounts_eq_none hclass, hclass]

theorem write950_opens_iff (inst : Instruction) : write950.Opens inst ↔ write94x.Opens inst := by
  rw [opens_iff_of_passCounts rfl (by decide), opens_iff_of_passCounts rfl (by decide)]
  rfl

end Interlock.Catalogue
