import Interlock.Proofs.Scheduler.Separation

/-! # The padding is the least possible

A requirement on a stream is live if its window is not reopened before the conflict. The padding of
a pass meets every live requirement, and any other padding that does has inserted at least as many
wait states at every point of the stream: behind each padding stands a live requirement that it
meets exactly.
-/

namespace Interlock.Scheduler

/-- The number of padding instructions in front of the instruction at a position. -/
def paddingAt (ds : List Decision) (k : Nat) : Nat :=
  (ds[k]?.map Decision.pads).getD 0

/-- The wait states of the instruction at a position. -/
def waitsAt (stream : List Instruction) (k : Nat) : Int :=
  (stream[k]?.map (·.waitStates.toInt)).getD 0

/-- The instruction at `i` opens a window of the active rule `r`, nothing before `j` opens another
over the same registers, and the instruction at `j` needs `n` wait states since `i`. -/
structure LiveRequirement (rules : List Rule) (stream : List Instruction) (r : Rule) (i j : Nat)
    (n : Int64) : Prop where
  active : r ∈ rules
  ordered : i < j
  hazard : ∃ trigger conflict, stream[i]? = some trigger ∧ stream[j]? = some conflict ∧
    r.Opens trigger ∧ r.separation trigger conflict = .ok (some n) ∧
    ∀ k inst, i < k → k < j → stream[k]? = some inst → r.Opens inst →
      Window.sameRanges (r.trackedRegs inst) (r.trackedRegs trigger) = false

/-- With the padding `q`, a stream has `n` wait states between two positions. -/
def Separates (q : Nat → Nat) (stream : List Instruction) (i j : Nat) (n : Int64) : Prop :=
  n.toInt ≤ (∑ k ∈ Finset.Ico (i + 1) (j + 1), q k : Nat) +
    ∑ k ∈ Finset.Ico (i + 1) j, waitsAt stream k

/-! ## Sums over positions -/

theorem sum_Ico_getElem? {α M : Type} [AddCommMonoid M] (f : α → M)
    (before between after : List α) :
    ∑ k ∈ Finset.Ico before.length (before.length + between.length),
      ((before ++ between ++ after)[k]?.map f).getD 0 = (between.map f).sum := by
  induction between generalizing before with
  | nil => simp
  | cons item rest ih =>
      have hrest := ih (before ++ [item])
      simp only [List.length_append, List.length_singleton, List.append_assoc,
        List.singleton_append] at hrest
      rw [Finset.sum_eq_sum_Ico_succ_bot (by simp), List.map_cons, List.sum_cons, ← hrest]
      simp [Nat.add_assoc, Nat.add_comm 1]

theorem slotsOf_issues {ds : List Decision} {stream : List Instruction}
    (hlength : ds.length = stream.length) (hds : ∀ d ∈ ds, 0 ≤ d.padding) :
    slotsOf (issues ds stream) =
      ((ds.map Decision.pads).sum : Nat) + (stream.map (·.waitStates.toInt)).sum := by
  induction ds generalizing stream with
  | nil =>
      cases stream with
      | nil => rfl
      | cons inst stream => simp at hlength
  | cons d ds ih =>
      cases stream with
      | nil => simp at hlength
      | cons inst stream =>
          have hrest := ih (Nat.succ.inj hlength) fun k hk => hds k (List.mem_cons_of_mem d hk)
          have hpads := Decision.natCast_pads (hds d List.mem_cons_self)
          simp only [issues, List.zipWith_cons_cons, slotsOf_cons, Issue.slots, List.map_cons,
            List.sum_cons] at hrest ⊢
          omega

/-- The wait states between two instructions are the slots issued between them, and the padding of
the second. -/
theorem sum_between {ds₁ ds₂ ds₃ : List Decision} {d₁ d₂ : Decision}
    {before between after : List Instruction} {trigger conflict : Instruction}
    (hlength₁ : ds₁.length = before.length) (hlength₂ : ds₂.length = between.length)
    (hds : ∀ d ∈ (ds₁ ++ d₁ :: ds₂) ++ d₂ :: ds₃, 0 ≤ d.padding) :
    (∑ k ∈ Finset.Ico (before.length + 1) (before.length + 1 + between.length + 1),
        paddingAt ((ds₁ ++ d₁ :: ds₂) ++ d₂ :: ds₃) k : Nat) +
      ∑ k ∈ Finset.Ico (before.length + 1) (before.length + 1 + between.length),
        waitsAt ((before ++ trigger :: between) ++ conflict :: after) k =
      slotsOf (issues ds₂ between) + d₂.padding.toInt := by
  have hpads := sum_Ico_getElem? Decision.pads (ds₁ ++ [d₁]) (ds₂ ++ [d₂]) ds₃
  have hwaits := sum_Ico_getElem? (fun inst : Instruction => inst.waitStates.toInt)
    (before ++ [trigger]) between (conflict :: after)
  simp only [List.length_append, List.length_singleton, List.append_assoc, List.cons_append,
    List.nil_append, List.map_append, List.sum_append, List.map_cons, List.map_nil,
    List.sum_singleton, hlength₁, hlength₂, ← Nat.add_assoc] at hpads hwaits
  have hlast := Decision.natCast_pads (hds d₂ (by simp))
  rw [slotsOf_issues hlength₂ fun d hd => hds d (by simp [hd])]
  simp only [paddingAt, waitsAt, List.append_assoc, List.cons_append, hpads, hwaits]
  omega

/-! ## Requirements that are met -/

section Pass

variable {s t : Scheduler} {stream : List Instruction} {ds : List Decision}

/-- The padding of a pass meets every live requirement. -/
theorem separates_of_live (hs : s.Remembers []) (hplan : s.plan 0 stream = ⟨ds, t, none⟩) {r : Rule}
    {i j : Nat} {n : Int64} (h : LiveRequirement s.rules stream r i j n) :
    Separates (paddingAt ds) stream i j n := by
  obtain ⟨hr, hij, trigger, conflict, htrigger, hconflict, _, hn, hkept⟩ := h
  obtain ⟨before, between, after, rfl, rfl, rfl⟩ := exists_split_between hij htrigger hconflict
  have hlonger : ∀ inst ∈ between, r.Opens inst →
      Window.sameRanges (r.trackedRegs inst) (r.trackedRegs trigger) = true →
      trigger.passes ≤ inst.passes := by
    intro inst hinst hopens hsame
    obtain ⟨k, hfrom, hto, hk⟩ := mem_between_iff.mp hinst
    rw [hkept k inst hfrom hto hk hopens] at hsame
    contradiction
  have hnonneg := plan_padding_nonneg hplan
  obtain ⟨ds₁, d₁, ds₂, d₂, ds₃, rfl, hlength₁, hlength₂, hneed⟩ :=
    need_le_slots hs hplan hr hn hlonger
  unfold Separates
  rw [sum_between hlength₁ hlength₂ hnonneg]
  exact hneed

/-! ## Padding that is forced -/

/-- A current window of the history makes its requirement on the next instruction live. -/
theorem exists_live_of_current {rules : List Rule} {front after : List Instruction}
    {conflict : Instruction} (hlength : ds.length = front.length) {r : Rule} (hr : r ∈ rules)
    (hsound : r.Sound) {later : List Issue} {opened : Window}
    (hcurrent : r.Current (issues ds front).reverse later opened) {n : Int64}
    (hcheck : r.check opened conflict = .ok (some n)) :
    ∃ ds₁ d ds₂ before trigger between, ds = ds₁ ++ d :: ds₂ ∧
      front = before ++ trigger :: between ∧ ds₁.length = before.length ∧
      ds₂.length = between.length ∧ slotsOf later = slotsOf (issues ds₂ between) ∧
      LiveRequirement rules (front ++ conflict :: after) r before.length
        (before.length + 1 + between.length) n := by
  obtain ⟨issue, earlier, hsplit, hopening⟩ := hcurrent.split
  have hkept := hcurrent.kept
  have hissues : issues ds front = earlier.reverse ++ issue :: later.reverse := by
    rw [← List.reverse_reverse (issues ds front), hsplit]
    simp
  obtain ⟨ds₁, d, ds₂, before, trigger, between, rfl, rfl, hlength₁, hlength₂, rfl, hlater⟩ :=
    issues_eq_append_cons hlength hissues
  have hslots : slotsOf later = slotsOf (issues ds₂ between) := by
    rw [← hlater]
    simp [slotsOf, List.sum_reverse]
  refine ⟨ds₁, d, ds₂, before, trigger, between, rfl, rfl, hlength₁, hlength₂, hslots, hr, by omega,
    trigger, conflict, ?_, ?_, (hsound.opens_of_opening hopening).1, ?_, ?_⟩
  · simp
  · rw [List.getElem?_append_right (by simp; omega)]
    simp [Nat.add_assoc, Nat.add_comm 1]
  · rw [hsound.separation_of_opening hopening, hcheck]
  · intro k inst hfrom hto hget hopens
    have hinst := mem_between_iff.mpr ⟨k, hfrom, hto, hget⟩
    rw [Bool.eq_false_iff]
    intro hsame
    -- An opening over the registers of the window would have taken its place.
    have htracked : r.trackedRegs inst ≠ [] := by
      intro hnil
      have hregs := (hsound.opening_eq_some_iff.mp hopening).2.1
      cases htrigger : r.trackedRegs trigger with
      | nil => exact hregs htrigger
      | cons reg regs =>
          rw [hnil, htrigger] at hsame
          contradiction
    obtain ⟨new, hnew, hnewRegs⟩ := hsound.opening_of_opens hopens htracked
    have hreopens : r.Reopens inst opened :=
      ⟨new, hnew, by rw [hnewRegs, (hsound.opens_of_opening hopening).2, hsame]⟩
    rw [← map_inst_issues hlength₂, ← hlater] at hinst
    obtain ⟨issue, hissue, rfl⟩ := List.mem_map.mp hinst
    exact hkept issue (List.mem_reverse.mp hissue) hreopens

/-- Behind every padding stands a live requirement that it meets exactly. -/
theorem exists_live_of_padding (hs : s.Remembers [])
    (hwaits : ∀ inst ∈ stream, inst.waitStates.toInt ≤ 2 ^ 62)
    (hplan : s.plan 0 stream = ⟨ds, t, none⟩) {j : Nat} (hpos : 0 < paddingAt ds j) :
    ∃ r i n, LiveRequirement s.rules stream r i j n ∧
      n.toInt = (∑ k ∈ Finset.Ico (i + 1) (j + 1), paddingAt ds k : Nat) +
        ∑ k ∈ Finset.Ico (i + 1) j, waitsAt stream k := by
  have hlength := plan_length hplan
  have hnonneg := plan_padding_nonneg hplan
  have hj : j < stream.length := by
    rw [← hlength]
    by_contra hout
    rw [paddingAt, List.getElem?_eq_none (Nat.not_lt.mp hout)] at hpos
    exact absurd hpos (by simp)
  obtain ⟨conflict, hconflict⟩ : ∃ conflict, stream[j]? = some conflict :=
    ⟨_, List.getElem?_eq_getElem hj⟩
  obtain ⟨front, after, rfl, rfl⟩ := exists_split_of_getElem? hconflict
  obtain ⟨ds', middle, d, next, ds₃, hfront, hstep, _, rfl⟩ := plan_split hplan
  have hlength' := plan_length hfront
  have hpads : 0 < d.pads := by
    simpa [paddingAt, ← hlength'] using hpos
  have hpadding : 0 < d.padding := by
    have hcast := Decision.natCast_pads (hnonneg d (by simp))
    rw [Int64.lt_iff_toInt_lt, Int64.toInt_zero]
    omega
  -- The winning monitor names a current window, whose trigger is in front of the conflict.
  have hmodest := hs.plan_modest (by simp) (fun inst hinst => hwaits inst (by simp [hinst])) hfront
  have hmiddle := hs.plan hfront
  rw [List.append_nil] at hmodest hmiddle
  obtain ⟨r, hr, hsound, windows, hremembers, hpeek⟩ := hmiddle.exists_winner hstep hpadding
  rw [plan_rules hfront] at hr
  obtain ⟨later, opened, n, hcurrent, hcheck, hn⟩ :=
    hremembers.exists_need_of_owed hsound hmodest hpeek hpadding
  obtain ⟨ds₁, d₁, ds₂, before, trigger, between, rfl, rfl, hlength₁, hlength₂, hslots, hlive⟩ :=
    exists_live_of_current hlength' hr hsound hcurrent hcheck
  have hplace : (before ++ trigger :: between).length = before.length + 1 + between.length := by
    simp
    omega
  refine ⟨r, before.length, n, ?_, ?_⟩
  · rw [hplace]
    exact hlive
  · rw [hplace, sum_between hlength₁ hlength₂ hnonneg, hn, hslots]

/-- Any padding that meets all live requirements has inserted at least as much at every position. -/
theorem sum_paddingAt_le (hs : s.Remembers [])
    (hwaits : ∀ inst ∈ stream, inst.waitStates.toInt ≤ 2 ^ 62)
    (hplan : s.plan 0 stream = ⟨ds, t, none⟩) {q : Nat → Nat}
    (hq : ∀ r i j n, LiveRequirement s.rules stream r i j n → Separates q stream i j n) (j : Nat) :
    ∑ k ∈ Finset.range j, paddingAt ds k ≤ ∑ k ∈ Finset.range j, q k := by
  induction j using Nat.strong_induction_on with
  | _ j ih =>
      cases j with
      | zero => simp
      | succ j =>
          by_cases hpos : 0 < paddingAt ds j
          -- A requirement that the padding meets exactly bounds every alternative from its trigger
          -- on; up to the trigger the induction does.
          · obtain ⟨r, i, n, hlive, hn⟩ := exists_live_of_padding hs hwaits hplan hpos
            have hij := hlive.ordered
            have hneed := hq r i j n hlive
            have hbefore := ih (i + 1) (by omega)
            rw [Separates, hn] at hneed
            rw [← Finset.sum_range_add_sum_Ico _ (by omega : i + 1 ≤ j + 1),
              ← Finset.sum_range_add_sum_Ico _ (by omega : i + 1 ≤ j + 1)]
            omega
          · have hbefore := ih j (by omega)
            rw [Finset.sum_range_succ, Finset.sum_range_succ]
            omega

end Pass

/-- The inserted padding is the least that will do. It meets every live requirement, and in front of
every position it has inserted no more wait states than any other padding that meets them. -/
theorem scheduled_padding_least (target : Target) (disabled : List String)
    (stream out : List Instruction)
    (hcounts : ∀ inst ∈ stream, inst.op = .nop → inst.count.toInt ≤ 2 ^ 62)
    (hout : ((Scheduler.new target Catalogue.rules disabled).scheduleAll stream).1 = .ok out) :
    let s := Scheduler.new target Catalogue.rules disabled
    let p := paddingAt (s.decisions stream)
    out = emitted (s.decisions stream) stream ∧
      (∀ r i j n, LiveRequirement s.rules stream r i j n → Separates p stream i j n) ∧
      ∀ q : Nat → Nat,
        (∀ r i j n, LiveRequirement s.rules stream r i j n → Separates q stream i j n) →
        ∀ j, ∑ k ∈ Finset.range (j + 1), p k ≤ ∑ k ∈ Finset.range (j + 1), q k := by
  obtain ⟨⟨t, hplan⟩, hemitted⟩ := scheduleAll_eq_ok rfl hout
  have hs := remembers_started target disabled
  have hwaits : ∀ inst ∈ stream, inst.waitStates.toInt ≤ 2 ^ 62 :=
    fun inst hinst => Instruction.waitStates_le (hcounts inst hinst)
  refine ⟨hemitted, ?_, ?_⟩
  · intro r i j n hlive
    exact separates_of_live hs hplan hlive
  · intro q hq j
    exact sum_paddingAt_le hs hwaits hplan hq (j + 1)

theorem scheduled_padding_least_overwrittenResult :
    let s := Scheduler.new { family := .cdna3 } Catalogue.rules []
    let p := paddingAt (s.decisions overwrittenResult)
    ∑ k ∈ Finset.range 3, p k = 11 ∧ ∀ q : Nat → Nat,
      (∀ r i j n, LiveRequirement s.rules overwrittenResult r i j n →
        Separates q overwrittenResult i j n) →
      11 ≤ ∑ k ∈ Finset.range 3, q k := by
  intro s p
  have hout : (s.scheduleAll overwrittenResult).1 =
      .ok (emitted (s.decisions overwrittenResult) overwrittenResult) := by decide +kernel
  have hsum : ∑ k ∈ Finset.range 3, p k = 11 := by decide +kernel
  obtain ⟨_, _, hleast⟩ := scheduled_padding_least _ _ _ _ (by decide) hout
  exact ⟨hsum, fun q hq => hsum ▸ hleast q hq 2⟩

end Interlock.Scheduler
