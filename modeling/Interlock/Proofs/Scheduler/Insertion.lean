import Interlock.Proofs.Monitor.Waiting
import Interlock.Proofs.Scheduler.Comparison

/-! # Explicit no-ops

A no-op that is put into a stream opens no window and conflicts with none. It moves what follows by
one place, and adds its wait states to the requirements that span it. So the padding of either
stream will do for the other, once the wait states of the no-op are made up for where it is left
out. Being the least that will do, the padding of the stream with the no-op is no more than that of
the stream without, and less by no more than the wait states that the no-op brings.
-/

namespace Interlock.Scheduler

/-- Where an instruction of a stream is found once another was put in at a position. -/
def moved (position k : Nat) : Nat :=
  if k < position then k else k + 1

section Places

variable {position : Nat}

theorem moved_of_lt {k : Nat} (hk : k < position) : moved position k = k := if_pos hk

theorem moved_of_le {k : Nat} (hk : position ≤ k) : moved position k = k + 1 :=
  if_neg (Nat.not_lt.mpr hk)

theorem moved_strictMono (position : Nat) : StrictMono (moved position) := by
  intro i j hij
  unfold moved
  split <;> split <;> omega

theorem exists_moved {k : Nat} (hk : k ≠ position) : ∃ i, moved position i = k := by
  by_cases hlt : k < position
  · exact ⟨k, moved_of_lt hlt⟩
  · exact ⟨k - 1, by rw [moved_of_le (by omega)]; omega⟩

/-- The padding of a stream as one of the stream with another instruction, which gets none. -/
def spread (position : Nat) (q : Nat → Nat) (k : Nat) : Nat :=
  if k < position then q k else if k = position then 0 else q (k - 1)

theorem spread_moved (q : Nat → Nat) (k : Nat) :
    spread position q (moved position k) = q k := by
  by_cases hk : k < position
  · rw [moved_of_lt hk, spread, if_pos hk]
  · rw [moved_of_le (Nat.not_lt.mp hk), spread, if_neg (by omega), if_neg (by omega),
      Nat.add_sub_cancel]

theorem spread_self (q : Nat → Nat) : spread position q position = 0 := by
  simp [spread]

/-- A sum up to a moved place has one place more, if that was put in before. -/
theorem sum_range_moved {M : Type} [AddCommMonoid M] (f : Nat → M) (j : Nat) :
    ∑ k ∈ Finset.range (moved position j), f k =
      ∑ k ∈ Finset.range j, f (moved position k) + if position ≤ j then f position else 0 := by
  by_cases hj : position ≤ j
  · rw [moved_of_le hj, if_pos hj]
    induction j, hj using Nat.le_induction with
    | base =>
        rw [Finset.sum_range_succ]
        congr 1
        apply Finset.sum_congr rfl
        intro k hk
        rw [moved_of_lt (Finset.mem_range.mp hk)]
    | succ j hj ih =>
        rw [Finset.sum_range_succ, ih, Finset.sum_range_succ _ j, moved_of_le hj, add_right_comm]
  · rw [moved_of_lt (Nat.not_le.mp hj), if_neg hj, add_zero]
    apply Finset.sum_congr rfl
    intro k hk
    have hk := Finset.mem_range.mp hk
    rw [moved_of_lt (by omega)]

end Places

/-! ## A stream with one more instruction -/

section Stream

variable {front back : List Instruction} {inst : Instruction}

theorem getElem?_moved (k : Nat) :
    (front ++ inst :: back)[moved front.length k]? = (front ++ back)[k]? := by
  by_cases hk : k < front.length
  · rw [moved_of_lt hk, List.getElem?_append_left hk, List.getElem?_append_left hk]
  · rw [moved_of_le (Nat.not_lt.mp hk), List.getElem?_append_right (by omega),
      List.getElem?_append_right (by omega), Nat.succ_sub (by omega), List.getElem?_cons_succ]

theorem waitsAt_moved (k : Nat) :
    waitsAt (front ++ inst :: back) (moved front.length k) = waitsAt (front ++ back) k := by
  rw [waitsAt, waitsAt, getElem?_moved]

theorem waitsAt_inserted :
    waitsAt (front ++ inst :: back) front.length = inst.waitStates.toInt := by
  simp [waitsAt]

/-- A requirement across the new instruction has its padding and its wait states besides, any other
has what it had before. -/
theorem separates_moved {q : Nat → Nat} {i j : Nat} (hij : i < j) {n : Int64} :
    Separates q (front ++ inst :: back) (moved front.length i) (moved front.length j) n ↔
      n.toInt ≤ (∑ k ∈ Finset.Ico (i + 1) (j + 1), q (moved front.length k) : Nat) +
        ∑ k ∈ Finset.Ico (i + 1) j, waitsAt (front ++ back) k +
        if i < front.length ∧ front.length ≤ j then q front.length + inst.waitStates.toInt
        else 0 := by
  have hmoved := moved_strictMono front.length hij
  -- All sums between two places are differences of sums up to a place.
  have hpads := Finset.sum_range_add_sum_Ico q (by omega :
    moved front.length i + 1 ≤ moved front.length j + 1)
  have hpads' := Finset.sum_range_add_sum_Ico (fun k => q (moved front.length k)) (by omega :
    i + 1 ≤ j + 1)
  have hwaits := Finset.sum_range_add_sum_Ico (waitsAt (front ++ inst :: back)) (by omega :
    moved front.length i + 1 ≤ moved front.length j)
  have hwaits' := Finset.sum_range_add_sum_Ico (waitsAt (front ++ back)) (by omega : i + 1 ≤ j)
  simp only [Finset.sum_range_succ, sum_range_moved, waitsAt_moved, waitsAt_inserted]
    at hpads hpads' hwaits hwaits'
  unfold Separates
  split_ifs at * <;> omega

end Stream

/-! ## Instructions that take no part -/

section Idle

variable {rules : List Rule} {front back : List Instruction} {inst : Instruction} {r : Rule}

theorem triggers_of_no_operands (hoperands : inst.dst = [] ∧ inst.src = []) :
    r.triggers inst = false := by
  have haccessed : r.accessed inst = [] := by
    unfold Rule.accessed
    split
    next => exact hoperands.1
    next => exact hoperands.2
  simp [Rule.triggers, haccessed]

theorem not_opens_of_no_operands (hoperands : inst.dst = [] ∧ inst.src = []) :
    ¬ r.Opens inst := by
  rintro ⟨htriggers, _⟩
  rw [triggers_of_no_operands hoperands] at htriggers
  contradiction

theorem schedulable_of_no_operands (hvalid : inst.defect? = none)
    (hoperands : inst.dst = [] ∧ inst.src = []) : ¬ Unschedulable rules inst := by
  rintro (hunsound | ⟨r, _, htriggers, _⟩)
  · exact hunsound hvalid
  · rw [triggers_of_no_operands hoperands] at htriggers
    contradiction

theorem separation_of_nop (hr : r.Sound) (hop : inst.op = .nop) (hsrc : inst.src = [])
    (trigger : Instruction) (n : Int64) : r.separation trigger inst ≠ .ok (some n) := by
  intro hn
  obtain ⟨size, hadmits, hcheck⟩ := hr.exists_check_of_separation hn
  rw [hr.check_idle hadmits hop hsrc] at hcheck
  cases hcheck

theorem liveRequirement_moved (hoperands : inst.dst = [] ∧ inst.src = []) {i j : Nat} {n : Int64} :
    LiveRequirement rules (front ++ inst :: back) r (moved front.length i)
        (moved front.length j) n ↔
      LiveRequirement rules (front ++ back) r i j n := by
  apply liveRequirement_embed (moved_strictMono front.length) fun k _ => getElem?_moved k
  intro k _ _
  by_cases hk : k = front.length
  · right
    rintro other hother
    rw [hk, List.getElem?_append_right le_rfl, Nat.sub_self, List.getElem?_cons_zero,
      Option.some.injEq] at hother
    exact hother ▸ not_opens_of_no_operands hoperands
  · exact Or.inl (exists_moved hk)

/-- Every requirement on a stream with a no-op is one on the stream without. -/
theorem LiveRequirement.exists_moved (hr : r.Sound) (hop : inst.op = .nop)
    (hoperands : inst.dst = [] ∧ inst.src = []) {i j : Nat} {n : Int64}
    (h : LiveRequirement rules (front ++ inst :: back) r i j n) :
    ∃ i' j', moved front.length i' = i ∧ moved front.length j' = j ∧
      LiveRequirement rules (front ++ back) r i' j' n := by
  have hinserted : (front ++ inst :: back)[front.length]? = some inst := by simp
  obtain ⟨trigger, conflict, htrigger, hconflict, hopens, hn, _⟩ := h.hazard
  have hi : i ≠ front.length := by
    rintro rfl
    rw [hinserted, Option.some.injEq] at htrigger
    exact not_opens_of_no_operands hoperands (htrigger ▸ hopens)
  have hj : j ≠ front.length := by
    rintro rfl
    rw [hinserted, Option.some.injEq] at hconflict
    exact separation_of_nop hr hop hoperands.2 trigger n (hconflict ▸ hn)
  obtain ⟨i', rfl⟩ := Scheduler.exists_moved hi
  obtain ⟨j', rfl⟩ := Scheduler.exists_moved hj
  exact ⟨i', j', rfl, rfl, (liveRequirement_moved hoperands).mp h⟩

end Idle

/-! ## Padding carried over -/

section Pass

variable {s t t' : Scheduler} {front back : List Instruction} {ds ds' : List Decision}
  {inst : Instruction}

/-- A no-op gets no padding. -/
theorem paddingAt_nop (hs : s.Remembers [])
    (hwaits : ∀ other ∈ front ++ inst :: back, other.waitStates.toInt ≤ 2 ^ 62)
    (hplan : s.plan 0 (front ++ inst :: back) = ⟨ds', t', none⟩) (hop : inst.op = .nop)
    (hoperands : inst.dst = [] ∧ inst.src = []) : paddingAt ds' front.length = 0 := by
  by_contra hpos
  obtain ⟨r, i, n, hlive, _⟩ := exists_live_of_padding hs hwaits hplan (Nat.pos_of_ne_zero hpos)
  obtain ⟨m, hm, hrule⟩ := List.mem_map.mp hlive.active
  obtain ⟨_, j, _, hj, _⟩ := hlive.exists_moved (hrule ▸ (hs m hm).1) hop hoperands
  unfold moved at hj
  split at hj <;> omega

theorem length_moved :
    (front ++ inst :: back).length = moved front.length (front ++ back).length := by
  rw [moved_of_le (by simp)]
  simp [Nat.add_assoc]

/-- The padding of a stream will do once a no-op is put in. -/
theorem sum_pads_with_nop_le (hs : s.Remembers [])
    (hwaits : ∀ other ∈ front ++ inst :: back, other.waitStates.toInt ≤ 2 ^ 62)
    (hplan : s.plan 0 (front ++ back) = ⟨ds, t, none⟩)
    (hplan' : s.plan 0 (front ++ inst :: back) = ⟨ds', t', none⟩) (hop : inst.op = .nop)
    (hoperands : inst.dst = [] ∧ inst.src = []) :
    (ds'.map Decision.pads).sum ≤ (ds.map Decision.pads).sum := by
  have hmeets : ∀ r i j n, LiveRequirement s.rules (front ++ inst :: back) r i j n →
      Separates (spread front.length (paddingAt ds)) (front ++ inst :: back) i j n := by
    intro r i j n hlive
    obtain ⟨m, hm, hrule⟩ := List.mem_map.mp hlive.active
    obtain ⟨i, j, rfl, rfl, hbefore⟩ := hlive.exists_moved (hrule ▸ (hs m hm).1) hop hoperands
    have hneed := separates_of_live hs hplan hbefore
    have hpositive := inst.one_le_waitStates
    rw [separates_moved hbefore.ordered]
    simp only [spread_moved, spread_self]
    unfold Separates at hneed
    split <;> omega
  have hlength := plan_length hplan
  calc (ds'.map Decision.pads).sum
      = ∑ k ∈ Finset.range (moved front.length ds.length), paddingAt ds' k := by
        rw [← sum_paddingAt, plan_length hplan', length_moved, hlength]
    _ ≤ ∑ k ∈ Finset.range (moved front.length ds.length),
          spread front.length (paddingAt ds) k :=
        sum_paddingAt_le hs hwaits hplan' hmeets _
    _ = (ds.map Decision.pads).sum := by
        rw [sum_range_moved, spread_self, ite_self, Nat.add_zero]
        simp only [spread_moved]
        exact sum_paddingAt ds

/-- The padding of a stream with a no-op will do without it, if the wait states of the no-op are
inserted in its place. -/
theorem sum_pads_without_nop_le (hs : s.Remembers [])
    (hwaits : ∀ other ∈ front ++ inst :: back, other.waitStates.toInt ≤ 2 ^ 62)
    (hplan : s.plan 0 (front ++ back) = ⟨ds, t, none⟩)
    (hplan' : s.plan 0 (front ++ inst :: back) = ⟨ds', t', none⟩) (hop : inst.op = .nop)
    (hoperands : inst.dst = [] ∧ inst.src = []) :
    (ds.map Decision.pads).sum ≤
      (ds'.map Decision.pads).sum + inst.waitStates.toNatClampNeg := by
  have hnone := paddingAt_nop hs hwaits hplan' hop hoperands
  have hcast : (inst.waitStates.toNatClampNeg : Int) = inst.waitStates.toInt :=
    Int.toNat_of_nonneg (by have := inst.one_le_waitStates; omega)
  have hmeets : ∀ r i j n, LiveRequirement s.rules (front ++ back) r i j n →
      Separates (fun k => paddingAt ds' (moved front.length k) +
        if k = front.length then inst.waitStates.toNatClampNeg else 0) (front ++ back) i j n := by
    intro r i j n hlive
    have hneed := separates_of_live hs hplan' ((liveRequirement_moved hoperands).mpr hlive)
    rw [separates_moved hlive.ordered, hnone] at hneed
    unfold Separates
    rw [Finset.sum_add_distrib, Finset.sum_ite_eq']
    simp only [Finset.mem_Ico, Nat.succ_le_iff, Nat.lt_succ_iff] at hneed ⊢
    split_ifs at * <;> omega
  have hlength := plan_length hplan
  calc (ds.map Decision.pads).sum
      = ∑ k ∈ Finset.range ds.length, paddingAt ds k := (sum_paddingAt ds).symm
    _ ≤ ∑ k ∈ Finset.range ds.length, (paddingAt ds' (moved front.length k) +
          if k = front.length then inst.waitStates.toNatClampNeg else 0) :=
        sum_paddingAt_le hs (fun other hother => hwaits other (by grind)) hplan hmeets _
    _ ≤ ∑ k ∈ Finset.range (moved front.length ds.length), paddingAt ds' k +
          inst.waitStates.toNatClampNeg := by
        rw [sum_range_moved, hnone, ite_self, Nat.add_zero, Finset.sum_add_distrib,
          Finset.sum_ite_eq']
        split <;> omega
    _ = (ds'.map Decision.pads).sum + inst.waitStates.toNatClampNeg := by
        rw [← sum_paddingAt ds', plan_length hplan', length_moved, hlength]

end Pass

/-- Wait states that a stream already holds are credited. If a no-op is put anywhere into a stream
that can be scheduled then the longer stream can be scheduled too. The no-op gets no padding of its
own, and the rest gets no more than before and at most as much less as the no-op waits. -/
theorem scheduled_credits_nop (target : Target) (disabled : List String)
    {front back out : List Instruction}
    (hcounts : ∀ inst ∈ front ++ back, inst.op = .nop → inst.count.toInt ≤ 2 ^ 62)
    (hout : ((Scheduler.new target Catalogue.rules disabled).scheduleAll (front ++ back)).1 =
      .ok out)
    {nop : Instruction} (hop : nop.op = .nop) (hvalid : nop.defect? = none)
    (hwait : nop.waitStates.toInt ≤ 2 ^ 62) :
    let s := Scheduler.new target Catalogue.rules disabled
    let longer := front ++ nop :: back
    ∃ out', (s.scheduleAll longer).1 = .ok out' ∧ out' = emitted (s.decisions longer) longer ∧
      paddingAt (s.decisions longer) front.length = 0 ∧
      (s.inserted (front ++ back) : Int) - nop.waitStates.toInt ≤ s.inserted longer ∧
      s.inserted longer ≤ s.inserted (front ++ back) ∧
      (s.inserted (front ++ back) < 2 ^ 63 →
        (s.scheduleAll (front ++ back)).2.stats.padding.toInt = s.inserted (front ++ back) ∧
        (s.scheduleAll longer).2.stats.padding.toInt = s.inserted longer) := by
  intro s longer
  change (s.scheduleAll (front ++ back)).1 = .ok out at hout
  have hoperands := Instruction.operands_of_nop hop hvalid
  have hs := remembers_started target disabled
  have hmem : ∀ inst ∈ longer, inst = nop ∨ inst ∈ front ++ back := by
    intro inst hinst
    exact List.mem_cons.mp (List.perm_middle.mem_iff.mp hinst)
  obtain ⟨out', hout'⟩ : ∃ out', (s.scheduleAll longer).1 = .ok out' := by
    apply (exists_scheduled_iff target disabled _).mpr
    rcases (exists_scheduled_iff target disabled _).mp ⟨out, hout⟩ with hidle | hall
    · exact Or.inl hidle
    · right
      intro inst hinst
      rcases hmem inst hinst with rfl | hinst
      · exact schedulable_of_no_operands hvalid hoperands
      · exact hall inst hinst
  have hwaits : ∀ inst ∈ longer, inst.waitStates.toInt ≤ 2 ^ 62 := by
    intro inst hinst
    rcases hmem inst hinst with rfl | hinst
    · exact hwait
    · exact Instruction.waitStates_le (hcounts inst hinst)
  obtain ⟨⟨t, hplan⟩, _⟩ := scheduleAll_eq_ok rfl hout
  obtain ⟨⟨t', hplan'⟩, hemitted⟩ := scheduleAll_eq_ok rfl hout'
  have hlower := sum_pads_without_nop_le hs hwaits hplan hplan' hop hoperands
  have hupper := sum_pads_with_nop_le hs hwaits hplan hplan' hop hoperands
  rw [← inserted_eq rfl hplan, ← inserted_eq rfl hplan'] at hlower hupper
  refine ⟨out', hout', hemitted, paddingAt_nop hs hwaits hplan' hop hoperands, ?_, hupper, ?_⟩
  · have hcast : (nop.waitStates.toNatClampNeg : Int) = nop.waitStates.toInt :=
      Int.toNat_of_nonneg (by have := nop.one_le_waitStates; omega)
    omega
  · intro hcountable
    exact ⟨toInt_stats_padding rfl rfl hplan hcountable,
      toInt_stats_padding rfl rfl hplan' (by omega)⟩

theorem scheduled_credits_nop_sharedWait :
    let s := Scheduler.new { family := .cdna3 } Catalogue.rules []
    let longer := sharedWait.take 2 ++ .nop 3 :: sharedWait.drop 2
    s.inserted sharedWait = 4 ∧ paddingAt (s.decisions longer) 2 = 0 ∧
      (4 : Int) - 3 ≤ s.inserted longer ∧ s.inserted longer ≤ 4 := by
  intro s longer
  have hout : (s.scheduleAll (sharedWait.take 2 ++ sharedWait.drop 2)).1 =
      .ok (emitted (s.decisions sharedWait) sharedWait) := by decide +kernel
  have hbefore : s.inserted sharedWait = 4 := by decide +kernel
  obtain ⟨_, _, _, hnone, hlower, hupper, _⟩ :=
    scheduled_credits_nop { family := .cdna3 } [] (by decide) hout
      (rfl : (Instruction.nop 3).op = .nop) (by decide) (by decide)
  rw [List.take_append_drop, show (new { family := .cdna3 }).inserted sharedWait = 4 from hbefore]
    at hlower hupper
  exact ⟨hbefore, hnone, hlower, hupper⟩

end Interlock.Scheduler
