import Interlock.Proofs.Scheduler.History

/-! # Required separations are present

In a padded stream every two instructions are as far apart as the rules of the target require. Ages
may wrap around, windows may be dropped, closed or replaced, and other rules may add padding of
their own: none of that loses a requirement, as long as no shorter trigger over the same registers
comes in between.
-/

namespace Interlock.Scheduler

theorem exists_split_of_getElem? {α : Type} {items : List α} {i : Nat} {item : α}
    (h : items[i]? = some item) :
    ∃ before after, items = before ++ item :: after ∧ before.length = i := by
  obtain ⟨hlt, heq⟩ := List.getElem?_eq_some_iff.mp h
  refine ⟨items.take i, items.drop (i + 1), ?_, by simp; omega⟩
  rw [← heq, List.getElem_cons_drop, List.take_append_drop]

theorem getElem?_between {α : Type} (before between after : List α) (first second : α) {k : Nat}
    (hk : k < between.length) :
    ((before ++ first :: between) ++ second :: after)[before.length + 1 + k]? = between[k]? := by
  rw [List.getElem?_append_left (by simp; omega), Nat.add_assoc,
    List.getElem?_append_right (by omega), Nat.add_sub_cancel_left, Nat.add_comm 1,
    List.getElem?_cons_succ]

/-- What stands between two members of a list has its positions between theirs. -/
theorem mem_between_iff {α : Type} {before between after : List α} {first second item : α} :
    item ∈ between ↔ ∃ k, before.length < k ∧ k < before.length + 1 + between.length ∧
      ((before ++ first :: between) ++ second :: after)[k]? = some item := by
  constructor
  · intro hitem
    obtain ⟨k, hk, hget⟩ := List.mem_iff_getElem.mp hitem
    refine ⟨before.length + 1 + k, by omega, by omega, ?_⟩
    rw [getElem?_between _ _ _ _ _ hk, List.getElem?_eq_getElem hk, hget]
  · rintro ⟨k, hfrom, hto, hget⟩
    obtain ⟨k, rfl⟩ := Nat.exists_eq_add_of_le hfrom
    rw [getElem?_between _ _ _ _ _ (by omega)] at hget
    exact List.mem_of_getElem? hget

/-- Two members of a list part it in three. -/
theorem exists_split_between {α : Type} {items : List α} {i j : Nat} (hij : i < j)
    {first second : α} (hi : items[i]? = some first) (hj : items[j]? = some second) :
    ∃ before between after, items = (before ++ first :: between) ++ second :: after ∧
      i = before.length ∧ j = before.length + 1 + between.length := by
  obtain ⟨front, after, rfl, hfront⟩ := exists_split_of_getElem? hj
  rw [List.getElem?_append_left (by omega)] at hi
  obtain ⟨before, between, rfl, rfl⟩ := exists_split_of_getElem? hi
  refine ⟨before, between, after, rfl, rfl, ?_⟩
  rw [← hfront]
  simp
  omega

variable {s t : Scheduler} {ds : List Decision}

/-- The slots issued between a trigger and a later conflict, the padding of the conflict included,
cover what the pair requires. -/
theorem need_le_slots (hs : s.Remembers []) {before between after : List Instruction}
    {trigger conflict : Instruction}
    (hplan : s.plan 0 ((before ++ trigger :: between) ++ conflict :: after) = ⟨ds, t, none⟩)
    {r : Rule} (hr : r ∈ s.rules) {n : Int64} (hn : r.separation trigger conflict = .ok (some n))
    (hlonger : ∀ inst ∈ between, r.Opens inst →
      Window.sameRanges (r.trackedRegs inst) (r.trackedRegs trigger) = true →
      trigger.passes ≤ inst.passes) :
    ∃ ds₁ d₁ ds₂ d₂ ds₃, ds = (ds₁ ++ d₁ :: ds₂) ++ d₂ :: ds₃ ∧ ds₁.length = before.length ∧
      ds₂.length = between.length ∧ n.toInt ≤ slotsOf (issues ds₂ between) + d₂.padding.toInt := by
  obtain ⟨ds', middle, d₂, next, ds₃, hfirst, hstep, _, rfl⟩ := plan_split hplan
  obtain ⟨ds₁, _, d₁, _, ds₂, hbefore, _, hbetween, rfl⟩ := plan_split hfirst
  have hlength₁ := plan_length hbefore
  have hlength₂ := plan_length hbetween
  refine ⟨ds₁, d₁, ds₂, d₂, ds₃, rfl, hlength₁, hlength₂, ?_⟩
  -- At the conflict, the history is what came between, the trigger, and what came before it.
  have hmiddle := hs.plan hfirst
  rw [issues_append hlength₁, List.append_nil, List.reverse_append] at hmiddle
  have hhistory : (issues (d₁ :: ds₂) (trigger :: between)).reverse ++
      (issues ds₁ before).reverse = (issues ds₂ between).reverse ++
        ⟨trigger, d₁.padding⟩ :: (issues ds₁ before).reverse := by
    simp [issues]
  rw [hhistory] at hmiddle
  rw [← plan_rules hfirst] at hr
  obtain ⟨hsound, windows, owed, hremembers, hpeek, hle⟩ := hmiddle.exists_peek hstep hr
  have hslots : slotsOf (issues ds₂ between).reverse = slotsOf (issues ds₂ between) := by
    simp [slotsOf, List.sum_reverse]
  have hpadding := Int64.le_trans (Monitor.peek_nonneg hpeek) hle
  rw [Word.toInt_nonneg] at hpadding
  rcases hsound.opening_of_separation hn (hremembers.opening ⟨trigger, d₁.padding⟩ (by simp)) with
    rfl | ⟨opened, hopening, hcheck⟩
  · have hnonneg : 0 ≤ slotsOf (issues ds₂ between).reverse := by
      apply slotsOf_nonneg
      intro issue hissue
      exact hremembers.padding_nonneg issue (List.mem_append_left _ hissue)
    rw [hslots] at hnonneg
    rw [Int64.toInt_zero]
    omega
  · rw [← hslots]
    refine hremembers.need_le_of_longer hsound rfl hopening ?_ hpeek hle hcheck
    rintro issue hissue ⟨new, hnew, hsame⟩
    obtain ⟨hopens, hregs⟩ := hsound.opens_of_opening hnew
    rw [hregs, (hsound.opens_of_opening hopening).2] at hsame
    have hinst : issue.inst ∈ between := by
      rw [← map_inst_issues hlength₂]
      exact List.mem_map_of_mem (List.mem_reverse.mp hissue)
    exact hlonger issue.inst hinst hopens hsame

/-- Where two members of a list stand, and what stands between them. -/
theorem members_and_between {α : Type} (before between after : List α) (first second : α) :
    let items := before ++ first :: (between ++ second :: after)
    items[before.length]? = some first ∧
      items[before.length + 1 + between.length]? = some second ∧
      items.extract (before.length + 1) (before.length + 1 + between.length) = between := by
  refine ⟨by simp, ?_, ?_⟩
  · rw [Nat.add_assoc, List.getElem?_append_right (by omega), Nat.add_sub_cancel_left,
      Nat.add_comm 1, List.getElem?_cons_succ]
    simp
  · have hdrop : (before ++ first :: (between ++ second :: after)).drop (before.length + 1) =
        between ++ second :: after := by
      rw [← List.drop_drop]
      simp
    rw [List.extract_eq_take_drop, hdrop]
    simp

/-- The part of a padded stream between two of its instructions. -/
theorem emitted_between {ds₁ ds₂ : List Decision} {before between : List Instruction}
    (hlength₁ : ds₁.length = before.length) (hlength₂ : ds₂.length = between.length)
    (d₁ d₂ : Decision) (trigger conflict : Instruction) (ds₃ : List Decision)
    (after : List Instruction) :
    let ds := (ds₁ ++ d₁ :: ds₂) ++ d₂ :: ds₃
    let out := emitted ds ((before ++ trigger :: between) ++ conflict :: after)
    out[emittedAt ds before.length]? = some trigger ∧
      out[emittedAt ds (before.length + 1 + between.length)]? = some conflict ∧
      out.extract (emittedAt ds before.length + 1)
          (emittedAt ds (before.length + 1 + between.length)) = emitted ds₂ between ++ d₂.fill := by
  intro ds out
  have hlength : (ds₁ ++ d₁ :: ds₂).length = (before ++ trigger :: between).length := by
    simp [hlength₁, hlength₂]
  have hplace₁ : emittedAt ds before.length = (emitted ds₁ before ++ d₁.fill).length := by
    have hds : ds = ds₁ ++ d₁ :: (ds₂ ++ d₂ :: ds₃) := by simp [ds]
    rw [hds, ← hlength₁, emittedAt_length]
    simp [length_emitted hlength₁]
  have hplace₂ : emittedAt ds (before.length + 1 + between.length) =
      (emitted ds₁ before ++ d₁.fill).length + 1 + (emitted ds₂ between ++ d₂.fill).length := by
    have hindex : before.length + 1 + between.length = (ds₁ ++ d₁ :: ds₂).length := by
      simp [hlength₁, hlength₂]
      omega
    rw [hindex, emittedAt_length]
    simp [length_emitted hlength₁, length_emitted hlength₂]
    omega
  have hout : out = (emitted ds₁ before ++ d₁.fill) ++ trigger ::
      ((emitted ds₂ between ++ d₂.fill) ++ conflict :: emitted ds₃ after) := by
    simp [out, ds, emitted_append hlength, emitted_append hlength₁, Decision.emit]
  rw [hout, hplace₁, hplace₂]
  exact members_and_between _ _ _ _ _

/-- No required wait state is missing from a padded stream: whenever an active rule requires a
separation of two instructions, the output between them has at least as many wait states, counted
exactly. Only a trigger over the same registers with fewer passes may stand in the way. -/
theorem scheduled_separation (target : Target) (disabled : List String)
    (stream out : List Instruction)
    (hout : ((Scheduler.new target Catalogue.rules disabled).scheduleAll stream).1 = .ok out)
    (r : Rule) (hr : r ∈ (Scheduler.new target Catalogue.rules disabled).rules)
    (i j : Nat) (hij : i < j) (trigger conflict : Instruction)
    (htrigger : stream[i]? = some trigger) (hconflict : stream[j]? = some conflict) (n : Int64)
    (hn : r.separation trigger conflict = .ok (some n))
    (hlonger : ∀ k inst, i < k → k < j → stream[k]? = some inst → r.triggers inst = true →
      Window.sameRanges (r.trackedRegs inst) (r.trackedRegs trigger) = true →
      trigger.passes ≤ inst.passes) :
    let ds := (Scheduler.new target Catalogue.rules disabled).decisions stream
    out = emitted ds stream ∧
      out[emittedAt ds i]? = some trigger ∧ out[emittedAt ds j]? = some conflict ∧
      n.toInt ≤ waitsOf (out.extract (emittedAt ds i + 1) (emittedAt ds j)) := by
  obtain ⟨before, between, after, rfl, rfl, rfl⟩ := exists_split_between hij htrigger hconflict
  obtain ⟨⟨t, hplan⟩, rfl⟩ := scheduleAll_eq_ok rfl hout
  have hlongerBetween : ∀ inst ∈ between, r.Opens inst →
      Window.sameRanges (r.trackedRegs inst) (r.trackedRegs trigger) = true →
      trigger.passes ≤ inst.passes := by
    intro inst hinst hopens
    obtain ⟨k, hfrom, hto, hk⟩ := mem_between_iff.mp hinst
    exact hlonger k inst hfrom hto hk hopens.1
  obtain ⟨ds₁, d₁, ds₂, d₂, ds₃, hds, hlength₁, hlength₂, hneed⟩ :=
    need_le_slots (remembers_started target disabled) hplan hr hn hlongerBetween
  intro ds
  have hplaces := emitted_between hlength₁ hlength₂ d₁ d₂ trigger conflict ds₃ after
  rw [← hds] at hplaces
  obtain ⟨hat₁, hat₂, hbetweenOut⟩ := hplaces
  refine ⟨rfl, hat₁, hat₂, ?_⟩
  have hnonneg := plan_padding_nonneg hplan
  rw [hds] at hnonneg
  rw [hbetweenOut, waitsOf_append, waitsOf_emitted hlength₂ fun d hd => hnonneg d (by simp [hd]),
    waitsOf_fill (hnonneg d₂ (by simp))]
  exact hneed

theorem scheduled_separation_overwrittenResult :
    let s := Scheduler.new { family := .cdna3 } Catalogue.rules []
    let ds := s.decisions overwrittenResult
    let out := emitted ds overwrittenResult
    (s.scheduleAll overwrittenResult).1 = .ok out ∧
      7 ≤ waitsOf (out.extract (emittedAt ds 0 + 1) (emittedAt ds 2)) := by
  intro s ds out
  have hout : (s.scheduleAll overwrittenResult).1 = .ok out := by decide +kernel
  have hr : Catalogue.write94x ∈ s.rules := List.mem_of_getElem? (rfl : s.rules[1]? = _)
  refine ⟨hout, ?_⟩
  refine (scheduled_separation _ _ _ _ hout _ hr 0 2 (by decide) _ _ rfl rfl 7 (by rfl) ?_).2.2.2
  intro k inst hfrom hto hinst _ _
  obtain rfl : k = 1 := by omega
  obtain rfl := Option.some.inj hinst
  decide

end Interlock.Scheduler
