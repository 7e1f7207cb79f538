import Interlock.Proofs.Monitor.Requirement

/-! # Padding that is committed by itself

Padding may be announced together with the instruction behind it, or be committed as no-ops of its
own before that instruction. Windows then age one step at a time and may be dropped on the way, but
as long as no age wraps around, the windows after the instruction are the same.
-/

namespace Interlock

namespace Window

/-- A window that is open and whose age is exact. -/
structure Young (w : Window) : Prop where
  nonneg : 0 ≤ w.elapsed
  lt_size : w.elapsed < w.size
  size_le : w.size ≤ 20

/-- What is left of a window after a number of wait states. -/
def rest (count : Nat) (w : Window) : Option Window :=
  if (w.aged (.ofNat count)).inert then none else some (w.aged (.ofNat count))

theorem Young.toInt_elapsed_add {w : Window} (hw : w.Young) {slots : Int64} (hlow : 0 ≤ slots)
    (hhigh : slots.toInt + 20 < 2 ^ 63) :
    (w.elapsed + slots).toInt = w.elapsed.toInt + slots.toInt := by
  have hnonneg := Word.toInt_nonneg.mp hw.nonneg
  have hlt := Int64.lt_iff_toInt_lt.mp hw.lt_size
  have hle := Int64.le_iff_toInt_le.mp hw.size_le
  have hlimit : (20 : Int64).toInt = 20 := by decide
  rw [Word.toInt_nonneg] at hlow
  exact Word.toInt_add (by omega) (by omega)

theorem Young.inert_aged_iff {w : Window} (hw : w.Young) {slots : Int64} (hlow : 0 ≤ slots)
    (hhigh : slots.toInt + 20 < 2 ^ 63) :
    (w.aged slots).inert = true ↔ w.size.toInt ≤ w.elapsed.toInt + slots.toInt := by
  simp only [inert, decide_eq_true_eq, aged_size, aged_elapsed, Int64.le_iff_toInt_le,
    hw.toInt_elapsed_add hlow hhigh]

/-- What is inert stays so. -/
theorem Young.inert_aged_add {w : Window} (hw : w.Young) {slots more : Int64} (hlow : 0 ≤ slots)
    (hmore : 0 ≤ more) (hhigh : slots.toInt + more.toInt + 20 < 2 ^ 63)
    (h : (w.aged slots).inert = true) : (w.aged (slots + more)).inert = true := by
  have hslots := Word.toInt_nonneg.mp hlow
  have hrest := Word.toInt_nonneg.mp hmore
  have hsum : (slots + more).toInt = slots.toInt + more.toInt :=
    Word.toInt_add (by omega) (by omega)
  have hsumNonneg : 0 ≤ slots + more := Word.toInt_nonneg.mpr (by omega)
  rw [hw.inert_aged_iff hlow (by omega)] at h
  rw [hw.inert_aged_iff hsumNonneg (by omega), hsum]
  omega

theorem Young.rest_zero {w : Window} (hw : w.Young) : w.rest 0 = some w := by
  have hopen : (w.aged (.ofNat 0)).inert = false := by
    have hlt := Int64.lt_iff_toInt_lt.mp hw.lt_size
    rw [Bool.eq_false_iff, ne_eq, hw.inert_aged_iff (by decide) (by decide)]
    simp
    omega
  rw [rest, hopen]
  exact congrArg some w.aged_zero

/-- Wait states one after the other are wait states at once. -/
theorem Young.rest_bind_rest {w : Window} (hw : w.Young) {count : Nat} (hcount : count < 20) :
    (w.rest count).bind (rest 1) = w.rest (count + 1) := by
  have hvalue : (Int64.ofNat count).toInt = count := Int64.toInt_ofNat_of_lt (by omega)
  have hsum : Int64.ofNat count + Int64.ofNat 1 = Int64.ofNat (count + 1) :=
    (Int64.ofNat_add count 1).symm
  unfold rest
  split
  next hinert =>
    have hone : (Int64.ofNat 1).toInt = 1 := rfl
    have hlater : (w.aged (.ofNat count + .ofNat 1)).inert = true := by
      refine hw.inert_aged_add (Word.toInt_nonneg.mpr ?_) (by decide) ?_ hinert
      · rw [hvalue]
        omega
      · rw [hvalue, hone]
        omega
    rw [← hsum, hlater]
    rfl
  next => simp only [Option.bind_some, aged_aged, hsum]

end Window

namespace Rule

variable {r : Rule} {w : Window}

theorem survivor_pad (hr : r.Sound) (hw : r.Admits w) (comment : RawText) :
    r.survivor (.pad comment) 0 w = w.rest 1 := by
  have hcheck : r.check w (.pad comment) = .ok none := hr.check_idle hw rfl rfl
  rw [survivor_of_check hcheck (Or.inl rfl)]
  rfl

/-- An instruction without operands opens no window. -/
theorem opening_of_no_operands {inst : Instruction} (hdst : inst.dst = []) (hsrc : inst.src = []) :
    r.opening inst = .ok none := by
  have haccessed : r.accessed inst = [] := by
    unfold accessed
    split
    next => exact hdst
    next => exact hsrc
  simp [opening, lacksTrigger, triggers, haccessed]

/-- A window that has rested lacks nothing that its padding would have given it. -/
theorem lack_aged (hr : r.Sound) (hw : r.Admits w) (hyoung : w.Young) {inst : Instruction}
    {need : Option Int64} (hcheck : r.check w inst = .ok need) {padding : Int64}
    (hnonneg : 0 ≤ padding) (hpadding : padding.toInt ≤ 20) (hlack : lack need w ≤ padding) :
    lack need (w.aged padding) ≤ 0 := by
  cases need with
  | none => exact Int64.le_refl 0
  | some n =>
      have hn := (hr.check_range hw hcheck).1
      have hsum := hyoung.toInt_elapsed_add hnonneg (by omega)
      have helapsed := Word.toInt_nonneg.mp hyoung.nonneg
      have hadded := Word.toInt_nonneg.mp hnonneg
      have hbefore := Window.toInt_remaining hyoung.nonneg hn
      -- Neither age wraps, so both sides are plain differences.
      have hafter : ((w.aged padding).remaining n).toInt =
          max 0 (n.toInt - (w.elapsed.toInt + padding.toInt)) := by
        rw [Window.toInt_remaining (Word.toInt_nonneg.mpr ?_) hn, Window.aged_elapsed, hsum]
        rw [Window.aged_elapsed, hsum]
        omega
      simp only [lack, Int64.le_iff_toInt_le, Int64.toInt_zero] at hlack ⊢
      omega

/-- What a commit leaves of a window does not depend on when its padding was issued. -/
theorem rest_bind_survivor (hr : r.Sound) (hw : r.Admits w) (hyoung : w.Young) {inst : Instruction}
    (hwait : inst.waitStates.toInt ≤ 2 ^ 62) {need : Option Int64}
    (hcheck : r.check w inst = .ok need) {padding : Int64} (hnonneg : 0 ≤ padding)
    (hpadding : padding.toInt ≤ 20) (hlack : lack need w ≤ padding) :
    (w.rest padding.toNatClampNeg).bind (r.survivor inst 0) = r.survivor inst padding w := by
  have hlater : r.check (w.aged padding) inst = .ok need := by rw [hr.check_aged hw, hcheck]
  unfold Window.rest
  rw [Int64.ofNat_toNatClampNeg padding hnonneg, survivor_of_check hcheck (Or.inr hlack)]
  split
  -- A window that padding alone makes inert would not have survived the instruction either.
  next hinert =>
    have hgone := hyoung.inert_aged_add hnonneg inst.waitStates_nonneg (by omega) hinert
    simp [hgone]
  next =>
    have hcovered := lack_aged hr hw hyoung hcheck hnonneg hpadding hlack
    simp only [Option.bind_some, survivor_of_check hlater (Or.inr hcovered), Window.aged_aged,
      Int64.zero_add]

end Rule

namespace Monitor

/-- A monitor of a sound rule whose windows are open and have exact ages. -/
structure Exact (m : Monitor) : Prop where
  sound : m.rule.Sound
  admits : ∀ w ∈ m.windows, m.rule.Admits w
  young : ∀ w ∈ m.windows, w.Young

/-- The monitor after a number of wait states in which nothing was issued. -/
def rested (count : Nat) (m : Monitor) : Monitor :=
  { m with windows := m.windows.filterMap (Window.rest count) }

variable {m : Monitor}

theorem Exact.rested_zero (hm : m.Exact) : m.rested 0 = m := by
  have hwindows : m.windows.filterMap (Window.rest 0) = m.windows := by
    rw [List.filterMap_congr fun w hw => (hm.young w hw).rest_zero]
    simp
  simp only [rested, hwindows]

theorem Exact.of_mem_rested (hm : m.Exact) {count : Nat} {w : Window}
    (hw : w ∈ (m.rested count).windows) : m.rule.Admits w := by
  obtain ⟨old, hold, hrest⟩ := List.mem_filterMap.mp hw
  unfold Window.rest at hrest
  split at hrest
  next => cases hrest
  next =>
    obtain rfl := Option.some.inj hrest
    exact (hm.admits old hold).aged _

/-- A pad needs no padding. -/
theorem Exact.peek_pad (hm : m.Exact) (count : Nat) (comment : RawText) :
    (m.rested count).peek (.pad comment) = .ok 0 := by
  apply Rule.owedAfter_eq_of_le
  intro w hw
  have hcheck : m.rule.check w (.pad comment) = .ok none :=
    hm.sound.check_idle (hm.of_mem_rested hw) rfl rfl
  exact ⟨0, Rule.owedTo_of_check hcheck, Int64.le_refl 0⟩

/-- Committing a pad is resting for one wait state. -/
theorem Exact.commit_pad (hm : m.Exact) {count : Nat} (hcount : count < 20) (comment : RawText) :
    (m.rested count).commit (.pad comment) 0 = .ok (m.rested (count + 1)) := by
  have hwindows : (m.rested count).windows.filterMap (m.rule.survivor (.pad comment) 0) =
      m.windows.filterMap (Window.rest (count + 1)) := by
    rw [List.filterMap_congr fun w hw => Rule.survivor_pad hm.sound (hm.of_mem_rested hw) comment]
    simp only [rested, List.filterMap_filterMap]
    exact List.filterMap_congr fun w hw => (hm.young w hw).rest_bind_rest hcount
  rw [commit_of_peek (hm.peek_pad count comment) (Int64.le_refl 0)]
  have hopening : m.rule.opening (.pad comment) = .ok none := Rule.opening_of_no_operands rfl rfl
  simp only [rested, hopening] at hwindows ⊢
  rw [hwindows]
  rfl

section Instruction

variable {inst : Instruction} {owed padding : Int64}

/-- Once its padding was issued, an instruction needs no more. -/
theorem Exact.peek_rested (hm : m.Exact) (hpeek : m.peek inst = .ok owed) (hle : owed ≤ padding)
    (hpadding : padding.toInt ≤ 20) : (m.rested padding.toNatClampNeg).peek inst = .ok 0 := by
  have hnonneg : 0 ≤ padding := Int64.le_trans (peek_nonneg hpeek) hle
  apply Rule.owedAfter_eq_of_le
  intro w hw
  obtain ⟨old, hold, hrest⟩ := List.mem_filterMap.mp hw
  obtain ⟨need, hcheck, hlack⟩ := lack_le_of_peek hpeek hle hold
  have hadmits := hm.admits old hold
  rw [Window.rest, Int64.ofNat_toNatClampNeg padding hnonneg] at hrest
  split at hrest
  next => cases hrest
  next =>
    obtain rfl := Option.some.inj hrest
    have hlater : m.rule.check (old.aged padding) inst = .ok need := by
      rw [hm.sound.check_aged hadmits, hcheck]
    exact ⟨_, Rule.owedTo_of_check hlater,
      Rule.lack_aged hm.sound hadmits (hm.young old hold) hcheck hnonneg hpadding hlack⟩

/-- Committing an instruction after its padding was issued ends where committing it together with
its padding ends. -/
theorem Exact.commit_rested (hm : m.Exact) (hpeek : m.peek inst = .ok owed) (hle : owed ≤ padding)
    (hpadding : padding.toInt ≤ 20) (hwait : inst.waitStates.toInt ≤ 2 ^ 62) :
    (m.rested padding.toNatClampNeg).commit inst 0 = m.commit inst padding := by
  have hnonneg : 0 ≤ padding := Int64.le_trans (peek_nonneg hpeek) hle
  have hwindows : (m.rested padding.toNatClampNeg).windows.filterMap (m.rule.survivor inst 0) =
      m.windows.filterMap (m.rule.survivor inst padding) := by
    simp only [rested, List.filterMap_filterMap]
    refine List.filterMap_congr fun w hw => ?_
    obtain ⟨need, hcheck, hlack⟩ := lack_le_of_peek hpeek hle hw
    exact Rule.rest_bind_survivor hm.sound (hm.admits w hw) (hm.young w hw) hwait hcheck hnonneg
      hpadding hlack
  rw [commit_of_peek (hm.peek_rested hpeek hle hpadding) (Int64.le_refl 0),
    commit_of_peek hpeek hle]
  simp only [rested] at hwindows ⊢
  rw [hwindows]

end Instruction

end Monitor

end Interlock
