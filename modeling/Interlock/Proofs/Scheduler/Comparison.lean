import Interlock.Proofs.Scheduler.Account
import Interlock.Proofs.Scheduler.Failure
import Interlock.Proofs.Scheduler.Minimality

/-! # Passes compared

The padding of a pass is the least that meets the live requirements on its stream, so two passes are
compared by their requirements. A pass with fewer rules has fewer of them, and inserts no more up to
any point of the stream, although it may well insert more in front of a single instruction. A stream
in two parts has the requirements of both parts and some that cross the seam, and these come to one
window at most.
-/

namespace Interlock.Scheduler

/-- The number of padding instructions in a scheduled stream. -/
def inserted (s : Scheduler) (stream : List Instruction) : Nat :=
  match (s.scheduleAll stream).1 with
  | .ok out => out.length - stream.length
  | .error _ => 0

/-- The largest window that some rules can open. -/
def longestWindow (rules : List Rule) : Nat :=
  (rules.map (·.sizes.max.toNatClampNeg)).max?.getD 0

/-! ## The padding in all -/

theorem sum_paddingAt (ds : List Decision) :
    ∑ k ∈ Finset.range ds.length, paddingAt ds k = (ds.map Decision.pads).sum := by
  have hsum := sum_Ico_getElem? Decision.pads [] ds []
  simp only [List.nil_append, List.append_nil, List.length_nil, Nat.zero_add] at hsum
  rw [Finset.range_eq_Ico]
  exact hsum

section Pass

variable {s t : Scheduler} {stream : List Instruction} {ds : List Decision}

theorem inserted_eq (hs : s.consumed = false) (h : s.started.plan 0 stream = ⟨ds, t, none⟩) :
    s.inserted stream = (ds.map Decision.pads).sum := by
  have hlength := plan_length h
  simp only [inserted, scheduleAll_of_plan hs h]
  rw [length_emitted hlength, hlength, Nat.add_sub_cancel_left]

/-- The account counts the padding in words. -/
theorem plan_stats_padding {position : Nat} (h : s.plan position stream = ⟨ds, t, none⟩) :
    t.stats.padding = s.stats.padding + .ofNat (ds.map Decision.pads).sum := by
  induction stream generalizing s position ds with
  | nil =>
      simp only [plan, Plan.mk.injEq] at h
      obtain ⟨rfl, rfl, _⟩ := h
      simp
  | cons inst rest ih =>
      obtain ⟨d, next, ds', hstep, hrest, rfl⟩ := plan_cons_eq h
      have hd : Int64.ofNat d.pads = d.padding :=
        Int64.ofNat_toNatClampNeg _ (step_padding_nonneg hstep)
      have hrecord : (s.stats.record d).padding = s.stats.padding + d.padding := by
        unfold Stats.record
        split
        next hzero => simp [hzero]
        next => rfl
      rw [ih hrest, step_stats hstep, hrecord, List.map_cons, List.sum_cons, Int64.ofNat_add, hd,
        Int64.add_assoc]

theorem toInt_stats_padding (hs : s.consumed = false) (hstats : s.stats.padding = 0)
    (h : s.started.plan 0 stream = ⟨ds, t, none⟩) (hcountable : s.inserted stream < 2 ^ 63) :
    (s.scheduleAll stream).2.stats.padding.toInt = s.inserted stream := by
  have hpadding := plan_stats_padding h
  rw [show s.started.stats.padding = 0 from hstats, Int64.zero_add, ← inserted_eq hs h] at hpadding
  rw [scheduleAll_of_plan hs h, hpadding, Int64.toInt_ofNat_of_lt hcountable]

end Pass

/-! ## Fewer rules -/

theorem LiveRequirement.of_subset {rules rules' : List Rule} (hsub : rules ⊆ rules')
    {stream : List Instruction} {r : Rule} {i j : Nat} {n : Int64}
    (h : LiveRequirement rules stream r i j n) : LiveRequirement rules' stream r i j n :=
  { h with active := hsub h.active }

theorem Unschedulable.of_subset {rules rules' : List Rule} (hsub : rules ⊆ rules')
    {inst : Instruction} (h : Unschedulable rules inst) : Unschedulable rules' inst :=
  h.imp_right fun ⟨r, hr, hobstructs⟩ => ⟨r, hsub hr, hobstructs⟩

theorem rules_new_subset (target : Target) (catalogue : List Rule)
    {disabled disabled' : List String} (hsub : disabled ⊆ disabled') :
    (new target catalogue disabled').rules ⊆ (new target catalogue disabled).rules := by
  intro r hr
  simp only [rules, new, List.map_map, Function.comp_def, List.map_id', List.mem_filter,
    Bool.and_eq_true, Bool.not_eq_true', List.contains_eq_mem, decide_eq_false_iff_not] at hr ⊢
  obtain ⟨hmem, hrequired, henabled⟩ := hr
  exact ⟨hmem, hrequired, fun hdisabled => henabled (hsub hdisabled)⟩

/-- Disabling rules never delays anything. A stream that can be scheduled still can be, and up to
every position there is no more padding than before. So there is no more in all, and the account
says so as long as its counter can hold the number. -/
theorem scheduled_disabling (target : Target) {disabled disabled' : List String}
    (hsub : disabled ⊆ disabled') (stream out : List Instruction)
    (hout : ((Scheduler.new target Catalogue.rules disabled).scheduleAll stream).1 = .ok out) :
    let s := Scheduler.new target Catalogue.rules disabled
    let s' := Scheduler.new target Catalogue.rules disabled'
    ∃ out', (s'.scheduleAll stream).1 = .ok out' ∧
      out = emitted (s.decisions stream) stream ∧ out' = emitted (s'.decisions stream) stream ∧
      ((∀ inst ∈ stream, inst.op = .nop → inst.count.toInt ≤ 2 ^ 62) →
        (∀ j, ∑ k ∈ Finset.range (j + 1), paddingAt (s'.decisions stream) k ≤
          ∑ k ∈ Finset.range (j + 1), paddingAt (s.decisions stream) k) ∧
        s'.inserted stream ≤ s.inserted stream ∧
        (s.inserted stream < 2 ^ 63 →
          (s'.scheduleAll stream).2.stats.padding ≤ (s.scheduleAll stream).2.stats.padding)) := by
  intro s s'
  have hrules : s'.rules ⊆ s.rules := rules_new_subset target Catalogue.rules hsub
  obtain ⟨out', hout'⟩ : ∃ out', (s'.scheduleAll stream).1 = .ok out' := by
    apply (exists_scheduled_iff target disabled' stream).mpr
    rcases (exists_scheduled_iff target disabled stream).mp ⟨out, hout⟩ with hidle | hall
    · left
      rw [show (new target Catalogue.rules disabled).rules = [] from hidle] at hrules
      exact List.subset_nil.mp hrules
    · right
      exact fun inst hinst hunschedulable => hall inst hinst (hunschedulable.of_subset hrules)
  obtain ⟨⟨t, hplan⟩, hemitted⟩ := scheduleAll_eq_ok rfl hout
  obtain ⟨⟨t', hplan'⟩, hemitted'⟩ := scheduleAll_eq_ok rfl hout'
  refine ⟨out', hout', hemitted, hemitted', fun hcounts => ?_⟩
  -- What the larger pass inserts is padding that meets the requirements of the smaller one.
  have hsum : ∀ j, ∑ k ∈ Finset.range j, paddingAt (s'.decisions stream) k ≤
      ∑ k ∈ Finset.range j, paddingAt (s.decisions stream) k := by
    apply sum_paddingAt_le (remembers_started target disabled')
      (fun inst hinst => Instruction.waitStates_le (hcounts inst hinst)) hplan'
    intro r i j n hlive
    exact separates_of_live (remembers_started target disabled) hplan (hlive.of_subset hrules)
  have hinserted : s'.inserted stream ≤ s.inserted stream := by
    rw [inserted_eq rfl hplan, inserted_eq rfl hplan', ← sum_paddingAt, ← sum_paddingAt,
      plan_length hplan, plan_length hplan']
    exact hsum stream.length
  refine ⟨fun j => hsum (j + 1), hinserted, fun hcountable => ?_⟩
  rw [Int64.le_iff_toInt_le, toInt_stats_padding rfl rfl hplan hcountable,
    toInt_stats_padding rfl rfl hplan' (by omega)]
  exact_mod_cast hinserted

/-- A scalar address and a condition code, both written by vector instructions, and their readers in
the other order. -/
def sharedWait : List Instruction :=
  let v (index : Int64) : Register := ⟨.vector, index, 1⟩
  let address : Register := ⟨.scalar, 0, 2⟩
  [.valu "" address [v 0], .valu "" .vcc [v 1], .new .divFmas "" [v 2] [v 0, v 1, v 3],
    .new .vmemLoad "" [v 4] [v 5, address]]

-- Without the rule for the condition code the address has to be awaited at the last instruction,
-- which had no padding of its own before.
theorem scheduled_disabling_sharedWait :
    let s := Scheduler.new { family := .cdna3 } Catalogue.rules []
    let s' := Scheduler.new { family := .cdna3 } Catalogue.rules ["VALUWriteVCC"]
    paddingAt (s.decisions sharedWait) 3 = 0 ∧ paddingAt (s'.decisions sharedWait) 3 = 3 ∧
      s'.inserted sharedWait ≤ s.inserted sharedWait := by
  intro s s'
  have hout : (s.scheduleAll sharedWait).1 = .ok (emitted (s.decisions sharedWait) sharedWait) := by
    decide +kernel
  obtain ⟨_, _, _, _, hcompare⟩ := scheduled_disabling { family := .cdna3 }
    (List.nil_subset ["VALUWriteVCC"]) sharedWait _ hout
  exact ⟨by decide +kernel, by decide +kernel, (hcompare (by decide)).2.1⟩

/-! ## Streams in two parts -/

/-- A requirement only looks at the instructions from its trigger to its conflict. These may stand
at other places of another stream, with anything between them that opens no window. -/
theorem liveRequirement_embed {rules : List Rule} {stream stream' : List Instruction} {r : Rule}
    {i j : Nat} {n : Int64} {place : Nat → Nat} (hplace : StrictMono place)
    (hsame : ∀ k ≤ j, stream'[place k]? = stream[k]?)
    (hgaps : ∀ k, place i < k → k < place j →
      (∃ origin, place origin = k) ∨ ∀ inst, stream'[k]? = some inst → ¬ r.Opens inst) :
    LiveRequirement rules stream' r (place i) (place j) n ↔
      LiveRequirement rules stream r i j n := by
  constructor
  · rintro ⟨hr, hij, trigger, conflict, htrigger, hconflict, hopens, hn, hkept⟩
    have hij : i < j := hplace.lt_iff_lt.mp hij
    refine ⟨hr, hij, trigger, conflict, ?_, ?_, hopens, hn, ?_⟩
    · rw [← hsame i hij.le, htrigger]
    · rw [← hsame j le_rfl, hconflict]
    · intro k inst hfrom hto hinst
      rw [← hsame k hto.le] at hinst
      exact hkept (place k) inst (hplace hfrom) (hplace hto) hinst
  · rintro ⟨hr, hij, trigger, conflict, htrigger, hconflict, hopens, hn, hkept⟩
    refine ⟨hr, hplace hij, trigger, conflict, ?_, ?_, hopens, hn, ?_⟩
    · rw [hsame i hij.le, htrigger]
    · rw [hsame j le_rfl, hconflict]
    · intro k inst hfrom hto hinst hinstOpens
      rcases hgaps k hfrom hto with ⟨origin, rfl⟩ | hidle
      · have horigin := hplace.lt_iff_lt.mp hto
        rw [hsame origin horigin.le] at hinst
        exact hkept origin inst (hplace.lt_iff_lt.mp hfrom) horigin hinst hinstOpens
      · exact absurd hinstOpens (hidle inst hinst)

theorem liveRequirement_shift {rules : List Rule} {stream stream' : List Instruction} {r : Rule}
    {i j offset : Nat} {n : Int64} (hsame : ∀ k ≤ j, stream'[k + offset]? = stream[k]?) :
    LiveRequirement rules stream' r (i + offset) (j + offset) n ↔
      LiveRequirement rules stream r i j n := by
  have hplace : StrictMono (· + offset) := fun _ _ h => Nat.add_lt_add_right h offset
  apply liveRequirement_embed hplace hsame
  intro k hfrom _
  exact Or.inl ⟨k - offset, Nat.sub_add_cancel (by omega)⟩

theorem separates_shift {stream stream' : List Instruction} {q q' : Nat → Nat} {i j offset : Nat}
    {n : Int64} (hsame : ∀ k ≤ j, stream'[k + offset]? = stream[k]?)
    (hq : ∀ k ≤ j, q' (k + offset) = q k) :
    Separates q' stream' (i + offset) (j + offset) n ↔ Separates q stream i j n := by
  have hpads : ∑ k ∈ Finset.Ico (i + offset + 1) (j + offset + 1), q' k =
      ∑ k ∈ Finset.Ico (i + 1) (j + 1), q k := by
    rw [Nat.add_right_comm i, Nat.add_right_comm j, ← Finset.sum_Ico_add']
    apply Finset.sum_congr rfl
    intro k hk
    exact hq k (by have := Finset.mem_Ico.mp hk; omega)
  have hwaits : ∑ k ∈ Finset.Ico (i + offset + 1) (j + offset), waitsAt stream' k =
      ∑ k ∈ Finset.Ico (i + 1) j, waitsAt stream k := by
    rw [Nat.add_right_comm i, ← Finset.sum_Ico_add']
    apply Finset.sum_congr rfl
    intro k hk
    rw [waitsAt, waitsAt, hsame k (by have := Finset.mem_Ico.mp hk; omega)]
  rw [Separates, Separates, hpads, hwaits]

theorem Separates.mono {q q' : Nat → Nat} (hle : ∀ k, q k ≤ q' k) {stream : List Instruction}
    {i j : Nat} {n : Int64} (h : Separates q stream i j n) : Separates q' stream i j n := by
  have hsum := Finset.sum_le_sum fun k (_ : k ∈ Finset.Ico (i + 1) (j + 1)) => hle k
  unfold Separates at h ⊢
  omega

theorem waitsAt_nonneg (stream : List Instruction) (k : Nat) : 0 ≤ waitsAt stream k := by
  unfold waitsAt
  cases stream[k]? with
  | none => simp
  | some inst =>
      have hwaits := inst.one_le_waitStates
      simp only [Option.map_some, Option.getD_some]
      omega

/-- No requirement exceeds the largest window. -/
theorem LiveRequirement.le_longestWindow {rules : List Rule} {stream : List Instruction} {r : Rule}
    {i j : Nat} {n : Int64} (h : LiveRequirement rules stream r i j n) (hr : r.Sound) :
    n.toInt ≤ longestWindow rules := by
  obtain ⟨hactive, _, trigger, conflict, _, _, _, hn, _⟩ := h
  obtain ⟨size, hadmits, hcheck⟩ := hr.exists_check_of_separation hn
  have hle : n ≤ r.sizes.max :=
    Int64.le_trans (hr.check_range hadmits hcheck).2 (LatencyTable.le_max_of_lookup hadmits)
  rw [Int64.le_iff_toInt_le] at hle
  have hlongest : r.sizes.max.toNatClampNeg ≤ longestWindow rules :=
    List.le_max?_getD_of_mem (List.mem_map_of_mem hactive)
  have hclamp : r.sizes.max.toInt ≤ r.sizes.max.toNatClampNeg := Int.self_le_toNat _
  omega

section Parts

variable {s t t₁ t₂ : Scheduler} {first second : List Instruction} {ds ds₁ ds₂ : List Decision}

theorem getElem?_behind {α : Type} (front back : List α) (k : Nat) :
    (front ++ back)[k + front.length]? = back[k]? := by
  rw [List.getElem?_append_right (by omega), Nat.add_sub_cancel]

theorem paddingAt_append_left {k : Nat} (hk : k < ds₁.length) :
    paddingAt (ds₁ ++ ds₂) k = paddingAt ds₁ k := by
  rw [paddingAt, paddingAt, List.getElem?_append_left hk]

theorem paddingAt_append_right (k : Nat) :
    paddingAt (ds₁ ++ ds₂) (k + ds₁.length) = paddingAt ds₂ k := by
  rw [paddingAt, paddingAt, getElem?_behind]

/-- The second part of a stream gets no less padding behind the first than on its own. -/
theorem sum_pads_second_le (hs : s.Remembers [])
    (hwaits : ∀ inst ∈ second, inst.waitStates.toInt ≤ 2 ^ 62)
    (hsecond : s.plan 0 second = ⟨ds₂, t₂, none⟩) (hlength₁ : ds₁.length = first.length)
    (hlength : ds.length = second.length)
    (hall : s.plan 0 (first ++ second) = ⟨ds₁ ++ ds, t, none⟩) :
    (ds₂.map Decision.pads).sum ≤ (ds.map Decision.pads).sum := by
  rw [← sum_paddingAt, ← sum_paddingAt, plan_length hsecond, hlength]
  apply sum_paddingAt_le hs hwaits hsecond
  intro r i j n hlive
  rw [← liveRequirement_shift fun k _ => getElem?_behind first second k] at hlive
  have hmeets := separates_of_live hs hall hlive
  rwa [separates_shift (fun k _ => getElem?_behind first second k)
    fun k _ => hlength₁ ▸ paddingAt_append_right k] at hmeets

/-- The paddings of both parts, and a window's worth at the seam, will do for the whole. -/
theorem separates_append (hs : s.Remembers []) (hfirst : s.plan 0 first = ⟨ds₁, t₁, none⟩)
    (hsecond : s.plan 0 second = ⟨ds₂, t₂, none⟩) {r : Rule} {i j : Nat} {n : Int64}
    (hlive : LiveRequirement s.rules (first ++ second) r i j n) :
    Separates (fun k => paddingAt (ds₁ ++ ds₂) k +
      if k = first.length then longestWindow s.rules else 0) (first ++ second) i j n := by
  have hlength := plan_length hfirst
  have hij := hlive.ordered
  by_cases hleft : j < first.length
  · -- Both instructions are in the first part.
    have hsame : ∀ k ≤ j, (first ++ second)[k + 0]? = first[k]? :=
      fun k hk => List.getElem?_append_left (by omega)
    refine Separates.mono (fun k => Nat.le_add_right _ _) ?_
    rw [← Nat.add_zero i, ← Nat.add_zero j, liveRequirement_shift hsame] at hlive
    rw [← Nat.add_zero i, ← Nat.add_zero j,
      separates_shift hsame fun k hk => paddingAt_append_left (by omega)]
    exact separates_of_live hs hfirst hlive
  · by_cases hright : first.length ≤ i
    · -- Both are in the second.
      obtain ⟨i, rfl⟩ := Nat.exists_eq_add_of_le' hright
      obtain ⟨j, rfl⟩ := Nat.exists_eq_add_of_le' (Nat.le_of_not_lt hleft)
      have hsame : ∀ k ≤ j, (first ++ second)[k + first.length]? = second[k]? :=
        fun k _ => getElem?_behind first second k
      refine Separates.mono (fun k => Nat.le_add_right _ _) ?_
      rw [liveRequirement_shift hsame] at hlive
      rw [separates_shift hsame fun k _ => hlength ▸ paddingAt_append_right k]
      exact separates_of_live hs hsecond hlive
    · -- The seam is between them.
      obtain ⟨m, hm, hrule⟩ := List.mem_map.mp hlive.active
      have hn := hlive.le_longestWindow (hrule ▸ (hs m hm).1)
      have hseam : first.length ∈ Finset.Ico (i + 1) (j + 1) :=
        Finset.mem_Ico.mpr ⟨by omega, by omega⟩
      have hpads := Finset.single_le_sum (fun k _ => Nat.zero_le (paddingAt (ds₁ ++ ds₂) k +
        if k = first.length then longestWindow s.rules else 0)) hseam
      have hwaits := Finset.sum_nonneg fun k (_ : k ∈ Finset.Ico (i + 1) j) =>
        waitsAt_nonneg (first ++ second) k
      rw [if_pos rfl] at hpads
      simp only [Separates]
      omega

theorem sum_pads_append_le (hs : s.Remembers [])
    (hwaits : ∀ inst ∈ first ++ second, inst.waitStates.toInt ≤ 2 ^ 62)
    (hfirst : s.plan 0 first = ⟨ds₁, t₁, none⟩) (hsecond : s.plan 0 second = ⟨ds₂, t₂, none⟩)
    (hall : s.plan 0 (first ++ second) = ⟨ds, t, none⟩) :
    (ds.map Decision.pads).sum ≤
      (ds₁.map Decision.pads).sum + (ds₂.map Decision.pads).sum + longestWindow s.rules := by
  have hlength : ds.length = (ds₁ ++ ds₂).length := by
    rw [plan_length hall, List.length_append, List.length_append, plan_length hfirst,
      plan_length hsecond]
  calc (ds.map Decision.pads).sum
      = ∑ k ∈ Finset.range (ds₁ ++ ds₂).length, paddingAt ds k := by rw [← hlength, sum_paddingAt]
    _ ≤ ∑ k ∈ Finset.range (ds₁ ++ ds₂).length, (paddingAt (ds₁ ++ ds₂) k +
          if k = first.length then longestWindow s.rules else 0) :=
        sum_paddingAt_le hs hwaits hall
          (fun r i j n hlive => separates_append hs hfirst hsecond hlive) _
    _ ≤ (ds₁.map Decision.pads).sum + (ds₂.map Decision.pads).sum + longestWindow s.rules := by
        rw [Finset.sum_add_distrib, sum_paddingAt, List.map_append, List.sum_append,
          Finset.sum_ite_eq']
        split <;> omega

end Parts

/-- A stream in two parts needs the padding of both, and at most one window more. If both parts can
be scheduled then so can the whole, and its padded stream begins with that of the first part. -/
theorem scheduled_append (target : Target) (disabled : List String)
    {first second out₁ out₂ : List Instruction}
    (hfirst : ((Scheduler.new target Catalogue.rules disabled).scheduleAll first).1 = .ok out₁)
    (hsecond : ((Scheduler.new target Catalogue.rules disabled).scheduleAll second).1 = .ok out₂) :
    let s := Scheduler.new target Catalogue.rules disabled
    ∃ out, (s.scheduleAll (first ++ second)).1 = .ok out ∧ out₁ <+: out ∧
      ((∀ inst ∈ first ++ second, inst.op = .nop → inst.count.toInt ≤ 2 ^ 62) →
        s.inserted first + s.inserted second ≤ s.inserted (first ++ second) ∧
        s.inserted (first ++ second) ≤
          s.inserted first + s.inserted second + longestWindow s.rules) := by
  intro s
  obtain ⟨out, hout⟩ : ∃ out, (s.scheduleAll (first ++ second)).1 = .ok out := by
    apply (exists_scheduled_iff target disabled _).mpr
    rcases (exists_scheduled_iff target disabled first).mp ⟨out₁, hfirst⟩ with hidle | hall₁
    · exact Or.inl hidle
    · rcases (exists_scheduled_iff target disabled second).mp ⟨out₂, hsecond⟩ with hidle | hall₂
      · exact Or.inl hidle
      · exact Or.inr (List.forall_mem_append.mpr ⟨hall₁, hall₂⟩)
  have hs := remembers_started target disabled
  obtain ⟨⟨t₁, hplan₁⟩, hemitted₁⟩ := scheduleAll_eq_ok rfl hfirst
  obtain ⟨⟨t₂, hplan₂⟩, _⟩ := scheduleAll_eq_ok rfl hsecond
  obtain ⟨⟨t, hplan⟩, hemitted⟩ := scheduleAll_eq_ok rfl hout
  have hlength₁ := plan_length hplan₁
  -- The pass over the whole decides on the first part as the pass over that part does.
  obtain ⟨ds, hds, hlength⟩ : ∃ ds,
      s.decisions (first ++ second) = s.decisions first ++ ds ∧ ds.length = second.length := by
    obtain ⟨ds', middle, ds, hplan', hrest, hds⟩ := plan_append_eq hplan
    rw [hplan₁, Plan.mk.injEq] at hplan'
    exact ⟨ds, by rw [hds, hplan'.1], plan_length hrest⟩
  rw [hds] at hplan hemitted
  refine ⟨out, hout, ?_, fun hcounts => ?_⟩
  · rw [hemitted, hemitted₁, emitted_append hlength₁]
    exact List.prefix_append _ _
  · have hwaits : ∀ inst ∈ first ++ second, inst.waitStates.toInt ≤ 2 ^ 62 :=
      fun inst hinst => Instruction.waitStates_le (hcounts inst hinst)
    have hlower := sum_pads_second_le hs (fun inst hinst => hwaits inst (by simp [hinst])) hplan₂
      hlength₁ hlength hplan
    have hupper := sum_pads_append_le hs hwaits hplan₁ hplan₂ hplan
    rw [inserted_eq rfl hplan₁, inserted_eq rfl hplan₂, inserted_eq rfl hplan]
    refine ⟨?_, hupper⟩
    rw [List.map_append, List.sum_append]
    exact Nat.add_le_add_left hlower _

theorem scheduled_append_sharedWait :
    let s := Scheduler.new { family := .cdna3 } Catalogue.rules []
    s.inserted sharedWait = 4 ∧ longestWindow s.rules = 19 ∧
      s.inserted (sharedWait.take 2) + s.inserted (sharedWait.drop 2) ≤ s.inserted sharedWait ∧
      s.inserted sharedWait ≤ s.inserted (sharedWait.take 2) + s.inserted (sharedWait.drop 2) +
        longestWindow s.rules := by
  intro s
  have hfirst : (s.scheduleAll (sharedWait.take 2)).1 = .ok (sharedWait.take 2) := by
    decide +kernel
  have hsecond : (s.scheduleAll (sharedWait.drop 2)).1 = .ok (sharedWait.drop 2) := by
    decide +kernel
  obtain ⟨_, _, _, hbounds⟩ := scheduled_append { family := .cdna3 } [] hfirst hsecond
  exact ⟨by decide +kernel, by decide +kernel, hbounds (by decide)⟩

end Interlock.Scheduler
