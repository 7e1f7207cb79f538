import Interlock.Proofs.Catalogue.Generations
import Interlock.Proofs.Monitor.Waiting
import Interlock.Proofs.Scheduler.Comparison

/-! # Passes for two generations

A pass with stricter rules inserts no less padding up to any point of the stream, although its
windows are longer and expire at other times: each live requirement of the weaker rules is one of
the stricter rules too. Where a pass ends early depends on the windows that cannot be opened, and a
rule is never blamed if one before it is obstructed by the same instructions. Both hold between
gfx942 and gfx950, whose rules differ in the matrix write rule alone.
-/

namespace Interlock

/-- A rule opens the windows that another opens, and asks no less of any conflict. -/
structure Rule.WeakerThan (r r' : Rule) : Prop where
  opens_iff : ∀ inst, r.Opens inst ↔ r'.Opens inst
  trackedRegs_eq : ∀ inst, r.trackedRegs inst = r'.trackedRegs inst
  separation_le : ∀ trigger conflict n, r.separation trigger conflict = .ok (some n) →
    ∃ n', r'.separation trigger conflict = .ok (some n') ∧ n ≤ n'

theorem Rule.WeakerThan.refl (r : Rule) : r.WeakerThan r where
  opens_iff _ := Iff.rfl
  trackedRegs_eq _ := rfl
  separation_le _ _ n hn := ⟨n, hn, Int64.le_refl n⟩

theorem Catalogue.write94x_weakerThan_write950 : write94x.WeakerThan write950 where
  opens_iff inst := (write950_opens_iff inst).symm
  trackedRegs_eq _ := rfl
  separation_le _ _ n hn :=
    ⟨oneMore n, write950_separation_of_some hn, le_oneMore (write94x_sound.separation_range hn)⟩

namespace Scheduler

/-! ## Stricter rules -/

theorem LiveRequirement.of_weaker {rules rules' : List Rule} {stream : List Instruction}
    {r r' : Rule} (hr' : r' ∈ rules') (hweaker : r.WeakerThan r') {i j : Nat} {n : Int64}
    (h : LiveRequirement rules stream r i j n) :
    ∃ n', LiveRequirement rules' stream r' i j n' ∧ n ≤ n' := by
  obtain ⟨_, hij, trigger, conflict, htrigger, hconflict, hopens, hn, hkept⟩ := h
  obtain ⟨n', hn', hle⟩ := hweaker.separation_le trigger conflict n hn
  refine ⟨n', ⟨hr', hij, trigger, conflict, htrigger, hconflict,
    (hweaker.opens_iff trigger).mp hopens, hn', ?_⟩, hle⟩
  intro k inst hfrom hto hinst hinstOpens
  rw [← hweaker.trackedRegs_eq, ← hweaker.trackedRegs_eq]
  exact hkept k inst hfrom hto hinst ((hweaker.opens_iff inst).mpr hinstOpens)

/-- One rule of several may be replaced by a stricter one. -/
theorem exists_weakerThan_of_replaced {front back : List Rule} {r r' : Rule}
    (hweaker : r.WeakerThan r') :
    ∀ k ∈ front ++ r :: back, ∃ k' ∈ front ++ r' :: back, k.WeakerThan k' := by
  intro k hk
  rcases List.mem_append.mp hk with hfront | hrest
  · exact ⟨k, List.mem_append_left _ hfront, .refl k⟩
  · rcases List.mem_cons.mp hrest with rfl | hback
    · exact ⟨r', by simp, hweaker⟩
    · exact ⟨k, by simp [hback], .refl k⟩

/-- Up to every position, stricter rules insert no less. -/
theorem sum_paddingAt_le_of_weaker {s s' t t' : Scheduler} {stream : List Instruction}
    {ds ds' : List Decision} (hs : s.Remembers []) (hs' : s'.Remembers [])
    (hweaker : ∀ r ∈ s.rules, ∃ r' ∈ s'.rules, r.WeakerThan r')
    (hwaits : ∀ inst ∈ stream, inst.waitStates.toInt ≤ 2 ^ 62)
    (hplan : s.plan 0 stream = ⟨ds, t, none⟩) (hplan' : s'.plan 0 stream = ⟨ds', t', none⟩)
    (j : Nat) :
    ∑ k ∈ Finset.range j, paddingAt ds k ≤ ∑ k ∈ Finset.range j, paddingAt ds' k := by
  refine sum_paddingAt_le hs hwaits hplan ?_ j
  intro r i j n hlive
  obtain ⟨r', hr', hstricter⟩ := hweaker r hlive.active
  obtain ⟨n', hlive', hle⟩ := hlive.of_weaker hr' hstricter
  have hmeets := separates_of_live hs' hplan' hlive'
  rw [Int64.le_iff_toInt_le] at hle
  unfold Separates at hmeets ⊢
  omega

/-! ## Who is blamed -/

instance (r : Rule) (inst : Instruction) : Decidable (r.Obstructs inst) :=
  inferInstanceAs (Decidable (_ ∧ _))

/-- The blame for an instruction that cannot be scheduled. -/
def blame? (rules : List Rule) (inst : Instruction) : Option (String × StepFailure) :=
  match inst.defect? with
  | some defect => some ("", .malformed defect)
  | none => (rules.find? (·.Obstructs inst)).map fun r => (r.name, .rejected (r.obstacle inst))

theorem Blames.blame?_eq {rules : List Rule} {inst : Instruction} {rule : String}
    {failure : StepFailure} (h : Blames rules inst rule failure) :
    blame? rules inst = some (rule, failure) := by
  rcases h with ⟨defect, hdefect, rfl, rfl⟩ |
    ⟨hdefect, before, r, after, rfl, hbefore, hobstructs, rfl, rfl, _⟩
  · simp [blame?, hdefect]
  · have hfirst : (before ++ r :: after).find? (·.Obstructs inst) = some r := by
      apply List.find?_eq_some_iff_append.mpr
      exact ⟨by simpa using hobstructs, before, after, rfl, by simpa using hbefore⟩
    simp only [blame?, hdefect, hfirst, Option.map_some]

theorem blame?_eq_none {rules : List Rule} {inst : Instruction} (h : ¬ Unschedulable rules inst) :
    blame? rules inst = none := by
  obtain ⟨hdefect, hfree⟩ := not_or.mp h
  rw [not_not] at hdefect
  have hnone : rules.find? (·.Obstructs inst) = none := by
    simpa [List.find?_eq_none] using hfree
  simp only [blame?, hdefect, hnone, Option.map_none]

/-- A rule is never blamed if one before it is obstructed by the same instructions. -/
theorem blame?_shadowed {front back : List Rule} {r : Rule} {inst : Instruction}
    (hshadow : inst.defect? = none → r.Obstructs inst → ∃ first ∈ front, first.Obstructs inst) :
    blame? (front ++ r :: back) inst = blame? (front ++ back) inst := by
  unfold blame?
  split
  next => rfl
  next hdefect =>
    rw [List.find?_append, List.find?_append]
    cases hfront : front.find? (·.Obstructs inst) with
    | some first => rfl
    | none =>
        have hfree : ¬ r.Obstructs inst := by
          intro hobstructs
          obtain ⟨first, hfirst, hblocked⟩ := hshadow hdefect hobstructs
          have := List.find?_eq_none.mp hfront first hfirst
          simp [hblocked] at this
        rw [List.find?_cons_of_neg (by simpa using hfree)]

/-- The error at the first instruction that someone is blamed for. -/
def firstBlamed (blame : Instruction → Option (String × StepFailure)) :
    Nat → List Instruction → Option ScheduleError
  | _, [] => none
  | position, inst :: rest =>
    match blame inst with
    | some (rule, failure) => some (.failed position inst rule failure)
    | none => firstBlamed blame (position + 1) rest

/-- How a pass ends depends on whom the rules blame, and not on the windows that are open. -/
theorem Remembers.plan_failure {s : Scheduler} {history : List Issue} (h : s.Remembers history)
    (hactive : s.rules ≠ []) (position : Nat) (stream : List Instruction) :
    (s.plan position stream).failure = firstBlamed (blame? s.rules) position stream := by
  have hmonitors : s.monitors ≠ [] := fun hnil => hactive (List.map_eq_nil_iff.mpr hnil)
  induction stream generalizing s history position with
  | nil => rfl
  | cons inst rest ih =>
      unfold Scheduler.plan firstBlamed
      rcases h.step_cases hmonitors position inst with
        ⟨⟨d, next, hstep⟩, hfree⟩ | ⟨rule, failure, hstep, hblames⟩
      · have hrules := step_rules hstep
        rw [← hrules] at hactive
        have hnext := ih (h.step hstep) hactive (position + 1)
          fun hnil => hactive (List.map_eq_nil_iff.mpr hnil)
        simp only [hstep, blame?_eq_none hfree, hnext, hrules]
      · simp only [hstep, hblames.blame?_eq]

/-! ## gfx942 and gfx950 -/

/-- The rules that both generations have behind their matrix rules. -/
def sharedRules : List Rule :=
  [Catalogue.scalarToMemory, Catalogue.conditionToDivision, Catalogue.maskToMatrix,
    Catalogue.transcendentalUse, Catalogue.descriptorUse]

theorem src_ne_nil_of_matrix {inst : Instruction} (hop : inst.op = .mfma)
    (hvalid : inst.defect? = none) : inst.src ≠ [] := by
  intro hsrc
  have hclass := Instruction.classDefect?_eq_none hvalid
  simp [Instruction.classDefect?, hop, hsrc] at hclass

section WriteRule

variable {r : Rule} (htrigger : r.trigger = some Catalogue.isMatrix)
  (hselection : r.selection = none)
  (hclasses : r.sizes.classes = Catalogue.readAddend94x.sizes.classes)

include htrigger hselection hclasses

/-- A matrix write rule is obstructed by unknown pass counts alone, which obstruct the read rule as
well. -/
theorem readAddend94x_obstructs {inst : Instruction} (hvalid : inst.defect? = none)
    (h : r.Obstructs inst) : Catalogue.readAddend94x.Obstructs inst := by
  obtain ⟨htriggers, hobstacle⟩ := h
  simp only [Rule.triggers, htrigger, Bool.and_eq_true, Bool.not_eq_true',
    List.isEmpty_eq_false_iff] at htriggers
  obtain ⟨haccessed, hmatrix⟩ := htriggers
  have hsrc := src_ne_nil_of_matrix (of_decide_eq_true hmatrix) hvalid
  refine ⟨?_, Or.inl ?_⟩
  · simpa [Rule.triggers, Rule.accessed, Catalogue.readAddend94x, hsrc] using hmatrix
  · rcases hobstacle with hunknown | huntracked
    · rw [Option.eq_none_iff_forall_ne_some] at hunknown ⊢
      intro n hn
      obtain ⟨m, hm⟩ := LatencyTable.exists_lookup_iff.mpr
        (hclasses ▸ LatencyTable.exists_lookup_iff.mp ⟨n, hn⟩)
      exact hunknown m hm
    · rw [Rule.trackedRegs, hselection] at huntracked
      exact absurd huntracked haccessed

/-- A matrix write rule is never blamed, because the read rule stands before it. -/
theorem blame?_behind_readAddend94x (inst : Instruction) :
    blame? ([Catalogue.readAddend94x] ++ r :: sharedRules) inst =
      blame? ([Catalogue.readAddend94x] ++ sharedRules) inst := by
  refine blame?_shadowed fun hvalid hobstructs => ⟨_, List.mem_singleton_self _, ?_⟩
  exact readAddend94x_obstructs htrigger hselection hclasses hvalid hobstructs

end WriteRule

section Generations

variable {older newer : Target}

theorem rules_of_cdna3 (h : older.family = .cdna3) :
    (new older Catalogue.rules []).rules =
      [Catalogue.readAddend94x] ++ Catalogue.write94x :: sharedRules := by
  obtain ⟨processor, xnack, sramecc, family⟩ := older
  subst h
  rfl

theorem rules_of_cdna35 (h : newer.family = .cdna35) :
    (new newer Catalogue.rules []).rules =
      [Catalogue.readAddend94x] ++ Catalogue.write950 :: sharedRules := by
  obtain ⟨processor, xnack, sramecc, family⟩ := newer
  subst h
  rfl

theorem exists_stricter_rule (holder : older.family = .cdna3) (hnewer : newer.family = .cdna35) :
    ∀ r ∈ (new older Catalogue.rules []).rules,
      ∃ r' ∈ (new newer Catalogue.rules []).rules, r.WeakerThan r' := by
  rw [rules_of_cdna3 holder, rules_of_cdna35 hnewer]
  exact exists_weakerThan_of_replaced Catalogue.write94x_weakerThan_write950

/-- Both generations end a pass in the same way. -/
theorem plan_failure_one_generation_later (holder : older.family = .cdna3)
    (hnewer : newer.family = .cdna35) (stream : List Instruction) :
    ((new older Catalogue.rules []).started.plan 0 stream).failure =
      ((new newer Catalogue.rules []).started.plan 0 stream).failure := by
  have hrules := rules_of_cdna3 holder
  have hrules' := rules_of_cdna35 hnewer
  change (new older Catalogue.rules []).started.rules = _ at hrules
  change (new newer Catalogue.rules []).started.rules = _ at hrules'
  rw [(remembers_started older []).plan_failure (by simp [hrules]),
    (remembers_started newer []).plan_failure (by simp [hrules']), hrules, hrules']
  congr 1
  funext inst
  rw [blame?_behind_readAddend94x rfl rfl (by decide),
    blame?_behind_readAddend94x rfl rfl (by decide)]

end Generations

/-- gfx950 is gfx942 with one more wait state after matrix writes, wherever gfx942 needs any.
Between any two instructions the write rules of the two fail together and see the same conflicts.
Passes for the two fail with the same error, or both succeed, and then gfx950 inserts no less
padding up to any position of the stream. -/
theorem scheduled_one_generation_later (older newer : Target) (holder : older.family = .cdna3)
    (hnewer : newer.family = .cdna35) :
    (∀ trigger conflict,
      let need := Catalogue.write94x.separation trigger conflict
      let need' := Catalogue.write950.separation trigger conflict
      ((∃ e', need' = .error e') ↔ ∃ e, need = .error e) ∧
      ((∃ n', need' = .ok (some n')) ↔ ∃ n, need = .ok (some n)) ∧
      ∀ n, need = .ok (some n) →
        ∃ n', need' = .ok (some n') ∧ n'.toInt = if n = 0 then 0 else n.toInt + 1) ∧
    ∀ stream,
      let s := Scheduler.new older Catalogue.rules []
      let s' := Scheduler.new newer Catalogue.rules []
      (∃ e, (s.scheduleAll stream).1 = .error e ∧ (s'.scheduleAll stream).1 = .error e) ∨
      ((s.scheduleAll stream).1 = .ok (emitted (s.decisions stream) stream) ∧
        (s'.scheduleAll stream).1 = .ok (emitted (s'.decisions stream) stream) ∧
        ((∀ inst ∈ stream, inst.op = .nop → inst.count.toInt ≤ 2 ^ 62) →
          ∀ j, ∑ k ∈ Finset.range (j + 1), paddingAt (s.decisions stream) k ≤
            ∑ k ∈ Finset.range (j + 1), paddingAt (s'.decisions stream) k)) := by
  refine ⟨?_, ?_⟩
  · intro trigger conflict need need'
    rcases Catalogue.write950_separation_cases trigger conflict with
      ⟨e, e', he, he'⟩ | ⟨found, hfound, hmore⟩
    · simp [need, need', he, he']
    · refine ⟨by simp [need, need', hfound, hmore], by simp [need, need', hfound, hmore], ?_⟩
      intro n hn
      have hrange := Catalogue.write94x_sound.separation_range hn
      exact ⟨_, Catalogue.write950_separation_of_some hn, Catalogue.toInt_oneMore hrange⟩
  · intro stream s s'
    have hfailure : (s.started.plan 0 stream).failure = (s'.started.plan 0 stream).failure :=
      plan_failure_one_generation_later holder hnewer stream
    cases hend : (s.started.plan 0 stream).failure with
    | some e =>
        rw [hend] at hfailure
        refine Or.inl ⟨e, ?_, ?_⟩
        · rw [scheduleAll_eq s rfl, hend]
        · rw [scheduleAll_eq s' rfl, ← hfailure]
    | none =>
        rw [hend] at hfailure
        have hout : (s.scheduleAll stream).1 = .ok (emitted (s.decisions stream) stream) := by
          rw [scheduleAll_eq s rfl, hend]
        have hout' : (s'.scheduleAll stream).1 = .ok (emitted (s'.decisions stream) stream) := by
          rw [scheduleAll_eq s' rfl, ← hfailure]
        refine Or.inr ⟨hout, hout', fun hcounts j => ?_⟩
        obtain ⟨⟨t, hplan⟩, _⟩ := scheduleAll_eq_ok rfl hout
        obtain ⟨⟨t', hplan'⟩, _⟩ := scheduleAll_eq_ok rfl hout'
        exact sum_paddingAt_le_of_weaker (remembers_started older []) (remembers_started newer [])
          (exists_stricter_rule holder hnewer)
          (fun inst hinst => Instruction.waitStates_le (hcounts inst hinst)) hplan hplan' (j + 1)

/-- A matrix result and a scalar address, awaited by a vector instruction and then by a load. -/
def resultThenAddress : List Instruction :=
  let v (index count : Int64) : Register := ⟨.vector, index, count⟩
  let address : Register := ⟨.scalar, 0, 2⟩
  [.mfma "" 2 (v 0 4) (v 4 2) (v 6 2) (v 8 4), .valu "" (v 20 1) [v 21 1],
    .valu "" address [v 22 1], .valu "" (v 23 1) [v 0 1],
    .new .vmemLoad "" [v 24 1] [v 25 1, address]]

-- gfx950 waits longer for the result, and so no more for the address, where gfx942 still has to.
theorem scheduled_one_generation_later_resultThenAddress :
    let s := Scheduler.new { processor := "gfx942", family := .cdna3 } Catalogue.rules []
    let s' := Scheduler.new { processor := "gfx950", family := .cdna35 } Catalogue.rules []
    paddingAt (s.decisions resultThenAddress) 4 = 1 ∧
      paddingAt (s'.decisions resultThenAddress) 4 = 0 ∧
      ∀ j, ∑ k ∈ Finset.range (j + 1), paddingAt (s.decisions resultThenAddress) k ≤
        ∑ k ∈ Finset.range (j + 1), paddingAt (s'.decisions resultThenAddress) k := by
  intro s s'
  refine ⟨by decide +kernel, by decide +kernel, ?_⟩
  have hout : (s.scheduleAll resultThenAddress).1 =
      .ok (emitted (s.decisions resultThenAddress) resultThenAddress) := by decide +kernel
  rcases (scheduled_one_generation_later { processor := "gfx942", family := .cdna3 }
    { processor := "gfx950", family := .cdna35 } rfl rfl).2 resultThenAddress with
    ⟨e, herror, _⟩ | ⟨_, _, hcompare⟩
  · rw [hout] at herror
    contradiction
  · exact hcompare (by decide)

end Scheduler

end Interlock
