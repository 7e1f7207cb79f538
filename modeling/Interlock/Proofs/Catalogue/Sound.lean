import Interlock.Catalogue
import Interlock.Proofs.Rule.Sound

/-! # The catalogue is sound

Most rules look up one table whenever an instruction matches; the matrix write rules take the
largest of several requirements. Both shapes are shown to be sound once, and each rule of the
catalogue is an instance with its own tables.
-/

namespace Interlock.Catalogue

/-- A match between windows and instructions that depends on nothing but the registers of the
window, and on these only up to sameness. -/
structure SoundConflict (conflict : Window → Instruction → Bool) : Prop where
  aged : ∀ w slots inst, conflict (w.aged slots) inst = conflict w inst
  same : ∀ w w' inst, Window.sameRanges w.regs w'.regs = true → conflict w inst = conflict w' inst
  idle : ∀ w inst, inst.op = .nop → inst.src = [] → conflict w inst = false

theorem latency_eq_ok {table : LatencyTable} {c n : Int64} (h : table.lookup? c = some n) :
    latency table c = .ok n := by
  simp only [latency, h]

theorem whenever_of_conflict {table : LatencyTable} {conflict : Window → Instruction → Bool}
    {w : Window} {inst : Instruction} {n : Int64} (hconflict : conflict w inst = true)
    (hn : table.lookup? w.latencyClass = some n) :
    whenever table conflict w inst = .ok (some n) := by
  simp only [whenever, hconflict, latency_eq_ok hn]
  rfl

theorem whenever_of_no_conflict {table : LatencyTable} {conflict : Window → Instruction → Bool}
    {w : Window} {inst : Instruction} (hconflict : conflict w inst = false) :
    whenever table conflict w inst = .ok none := by
  simp [whenever, hconflict]

/-- Looking up a table that serves the windows is a sound judgement. -/
theorem whenever_sound {table sizes : LatencyTable} {conflict : Window → Instruction → Bool}
    (htable : table.Serves sizes) (hconflict : SoundConflict conflict) :
    SoundHazard sizes (whenever table conflict) where
  aged w slots inst := by
    simp only [whenever, hconflict.aged, Window.aged_latencyClass]
  range w inst size hsize := by
    obtain ⟨n, hn, hrange⟩ := htable.exists_lookup hsize
    cases hc : conflict w inst with
    | false => exact ⟨none, whenever_of_no_conflict hc, by simp⟩
    | true =>
        refine ⟨some n, whenever_of_conflict hc hn, ?_⟩
        intro m hm
        rw [Option.mem_some_iff] at hm
        exact hm ▸ hrange
  mono w w' inst size size' n hregs hclass hsize hsize' hn := by
    obtain ⟨m, hm, _⟩ := htable.exists_lookup hsize
    obtain ⟨m', hm', _⟩ := htable.exists_lookup hsize'
    cases hc : conflict w inst with
    | false =>
        rw [whenever_of_no_conflict hc] at hn
        cases hn
    | true =>
        rw [whenever_of_conflict hc hm, Except.ok.injEq, Option.some.injEq] at hn
        have hc' : conflict w' inst = true := by rw [← hconflict.same w w' inst hregs, hc]
        exact ⟨m', whenever_of_conflict hc' hm', hn ▸ htable.ascending.lookup_mono hclass hm hm'⟩
  idle w inst hop hsrc := whenever_of_no_conflict (hconflict.idle w inst hop hsrc)

/-- A rule whose one conflict needs the whole window is sound, under either policy. -/
theorem sound_of_whenever {r : Rule} {conflict : Window → Instruction → Bool}
    (htrigger : r.trigger.isSome = true) (hhazard : r.hazard = some (whenever r.sizes conflict))
    (hsizes : r.sizes.Serves r.sizes) (hconflict : SoundConflict conflict) : r.Sound := by
  have hjudge : r.judge = whenever r.sizes conflict := by
    funext w inst
    simp only [Rule.judge, hhazard]
  refine ⟨htrigger, ?_, ?_, hsizes.range⟩
  · rw [hjudge]
    exact whenever_sound hsizes hconflict
  · intro _ w inst size n hsize hn
    rw [hjudge] at hn
    cases hc : conflict w inst with
    | false =>
        rw [whenever_of_no_conflict hc] at hn
        cases hn
    | true =>
        rw [whenever_of_conflict hc hsize, Except.ok.injEq, Option.some.injEq] at hn
        exact hn.symm

/-! ## Requirements of a dependent matrix instruction -/

theorem largest?_eq_none_iff (needs : List Int64) : largest? needs = none ↔ needs = [] := by
  cases needs with
  | nil => simp [largest?]
  | cons n rest =>
      simp only [largest?, reduceCtorEq, iff_false]
      split <;> simp

/-- The largest requirement is one of them, and no other is larger. -/
theorem largest?_spec {needs : List Int64} {n : Int64} (h : largest? needs = some n) :
    n ∈ needs ∧ ∀ m ∈ needs, m ≤ n := by
  induction needs generalizing n with
  | nil => simp [largest?] at h
  | cons k rest ih =>
      unfold largest? at h
      split at h
      next m hm =>
        obtain ⟨hmem, hmax⟩ := ih hm
        rw [Option.some.injEq] at h
        subst h
        split
        next hlt =>
          refine ⟨List.mem_cons_of_mem k hmem, ?_⟩
          intro x hx
          rcases List.mem_cons.mp hx with rfl | hx
          · exact Int64.le_of_lt hlt
          · exact hmax x hx
        next hlt =>
          refine ⟨List.mem_cons_self, ?_⟩
          intro x hx
          rcases List.mem_cons.mp hx with rfl | hx
          · exact Int64.le_refl x
          · exact Int64.le_trans (hmax x hx) (Int64.not_lt.mp hlt)
      next hnone =>
        rw [Option.some.injEq] at h
        rw [(largest?_eq_none_iff rest).mp hnone, ← h]
        simp

/-- Requirements that are each met by a larger one have a smaller maximum. -/
theorem largest?_mono {needs needs' : List Int64} (h : ∀ n ∈ needs, ∃ n' ∈ needs', n ≤ n')
    {n : Int64} (hn : largest? needs = some n) : ∃ n', largest? needs' = some n' ∧ n ≤ n' := by
  obtain ⟨n', hmem, hle⟩ := h n (largest?_spec hn).1
  cases hlargest : largest? needs' with
  | none =>
      rw [(largest?_eq_none_iff needs').mp hlargest] at hmem
      simp at hmem
  | some m => exact ⟨m, rfl, Int64.le_trans hle ((largest?_spec hlargest).2 n' hmem)⟩

theorem mem_matrixNeeds {w : Window} {inst : Instruction} {same overlapped factor n : Int64} :
    n ∈ matrixNeeds w inst same overlapped factor ↔
      (∃ c, inst.operand? 2 = some c ∧ w.overlaps c = true ∧
        n = if w.covers c then same else overlapped) ∨
      (∃ r, (inst.operand? 0 = some r ∨ inst.operand? 1 = some r) ∧ w.overlaps r = true ∧
        n = factor) := by
  simp only [matrixNeeds, List.mem_append, List.mem_filterMap, Option.mem_toList]
  constructor
  · rintro (⟨c, hc, hn⟩ | ⟨r, hr, hn⟩)
    · split at hn
      next hover => exact Or.inl ⟨c, hc, hover, (Option.some.inj hn).symm⟩
      next => contradiction
    · split at hn
      next hover => exact Or.inr ⟨r, hr, hover, (Option.some.inj hn).symm⟩
      next => contradiction
  · rintro (⟨c, hc, hover, hn⟩ | ⟨r, hr, hover, hn⟩)
    · exact Or.inl ⟨c, hc, by simp [hover, hn]⟩
    · exact Or.inr ⟨r, hr, by simp [hover, hn]⟩

/-- A dependent matrix instruction needs no more than the window holds if no single dependence
does. -/
theorem matrixNeeds_range {w : Window} {inst : Instruction} {overlapped factor size : Int64}
    (hsize : 0 ≤ size) (hover : 0 ≤ overlapped ∧ overlapped ≤ size)
    (hfactor : 0 ≤ factor ∧ factor ≤ size) :
    ∀ n ∈ largest? (matrixNeeds w inst 0 overlapped factor), 0 ≤ n ∧ n ≤ size := by
  intro n hn
  rcases mem_matrixNeeds.mp (largest?_spec hn).1 with ⟨c, _, _, hn⟩ | ⟨r, _, _, hn⟩
  · rw [hn]
    split
    · exact ⟨Int64.le_refl 0, hsize⟩
    · exact hover
  · exact hn ▸ hfactor

theorem matrixNeeds_mono {w w' : Window} {inst : Instruction}
    {overlapped overlapped' factor factor' n : Int64}
    (hregs : Window.sameRanges w.regs w'.regs = true) (hover : overlapped ≤ overlapped')
    (hfactor : factor ≤ factor') (hn : largest? (matrixNeeds w inst 0 overlapped factor) = some n) :
    ∃ n', largest? (matrixNeeds w' inst 0 overlapped' factor') = some n' ∧ n ≤ n' := by
  refine largest?_mono ?_ hn
  intro m hm
  rcases mem_matrixNeeds.mp hm with ⟨c, hc, hov, rfl⟩ | ⟨r, hr, hov, rfl⟩
  · rw [Window.overlaps_congr hregs] at hov
    refine ⟨_, mem_matrixNeeds.mpr (Or.inl ⟨c, hc, hov, rfl⟩), ?_⟩
    rw [Window.covers_congr hregs]
    split
    · exact Int64.le_refl 0
    · exact hover
  · rw [Window.overlaps_congr hregs] at hov
    exact ⟨factor', mem_matrixNeeds.mpr (Or.inr ⟨r, hr, hov, rfl⟩), hfactor⟩

/-- The age of a window does not matter to a dependent matrix instruction. -/
theorem matrixNeeds_aged (w : Window) (slots : Int64) (inst : Instruction)
    (same overlapped factor : Int64) :
    matrixNeeds (w.aged slots) inst same overlapped factor =
      matrixNeeds w inst same overlapped factor := rfl

/-! ## The matrix write rules -/

theorem readsAny_eq_false_of_src_nil {inst : Instruction} (hsrc : inst.src = [])
    (regs : List Register) : inst.readsAny regs = false := by
  simp [Instruction.readsAny, Instruction.reads, hsrc]

theorem reads_sound : SoundConflict fun w inst => inst.readsAny w.regs where
  aged _ _ _ := rfl
  same _ _ inst hregs := Window.readsAny_congr hregs inst
  idle _ _ _ hsrc := readsAny_eq_false_of_src_nil hsrc _

theorem valuOverwrites_sound : SoundConflict valuOverwrites where
  aged _ _ _ := rfl
  same _ _ inst hregs := by simp only [valuOverwrites, Window.writesAny_congr hregs inst]
  idle _ _ hop _ := by simp [valuOverwrites, hop, Opcode.isValu]

/-- Two sound matches can be joined. -/
theorem SoundConflict.or {first second : Window → Instruction → Bool} (hfirst : SoundConflict first)
    (hsecond : SoundConflict second) :
    SoundConflict fun w inst => first w inst || second w inst where
  aged w slots inst := by rw [hfirst.aged, hsecond.aged]
  same w w' inst hregs := by rw [hfirst.same w w' inst hregs, hsecond.same w w' inst hregs]
  idle w inst hop hsrc := by rw [hfirst.idle w inst hop hsrc, hsecond.idle w inst hop hsrc]; rfl

/-- A sound match may be restricted to some classes of instructions. -/
theorem SoundConflict.restrict {conflict : Window → Instruction → Bool}
    (h : SoundConflict conflict) (only : Instruction → Bool) :
    SoundConflict fun w inst => only inst && conflict w inst where
  aged w slots inst := by rw [h.aged]
  same w w' inst hregs := by rw [h.same w w' inst hregs]
  idle w inst hop hsrc := by rw [h.idle w inst hop hsrc, Bool.and_false]

/-- A match on the instruction alone is sound if it leaves no-ops out. -/
theorem SoundConflict.ofInstruction {only : Instruction → Bool}
    (hidle : ∀ inst, inst.op = .nop → only inst = false) :
    SoundConflict fun _ inst => only inst where
  aged _ _ _ := rfl
  same _ _ _ _ := rfl
  idle _ inst hop _ := hidle inst hop

theorem MatrixLatencies.hazard_of_matrix {t : MatrixLatencies} {w : Window} {inst : Instruction}
    {overlapped factor : Int64} (hop : inst.op = .mfma)
    (hover : t.overlapped.lookup? w.latencyClass = some overlapped)
    (hfactor : t.factor.lookup? w.latencyClass = some factor) :
    t.hazard w inst = .ok (largest? (matrixNeeds w inst 0 overlapped factor)) := by
  simp only [hazard, hop, latency_eq_ok hover, latency_eq_ok hfactor]
  rfl

/-- The judgement of a write rule is sound if each of its tables serves the windows. -/
theorem MatrixLatencies.hazard_sound {t : MatrixLatencies} {sizes : LatencyTable}
    (hover : t.overlapped.Serves sizes) (hfactor : t.factor.Serves sizes)
    (hother : t.other.Serves sizes) : SoundHazard sizes t.hazard := by
  have hwhen := whenever_sound hother (reads_sound.or valuOverwrites_sound)
  -- A matrix instruction is judged by its operands, any other by the third table.
  refine ⟨?_, ?_, ?_, ?_⟩
  · intro w slots inst
    simp only [hazard, matrixNeeds_aged, Window.aged_latencyClass, hwhen.aged]
  · intro w inst size hsize
    by_cases hop : inst.op = .mfma
    · obtain ⟨m, hm, hmrange⟩ := hover.exists_lookup hsize
      obtain ⟨n, hn, hnrange⟩ := hfactor.exists_lookup hsize
      exact ⟨_, hazard_of_matrix hop hm hn,
        matrixNeeds_range (Int64.le_trans hmrange.1 hmrange.2) hmrange hnrange⟩
    · simp only [hazard, hop, if_false]
      exact hwhen.range w inst size hsize
  · intro w w' inst size size' n hregs hclass hsize hsize' h
    by_cases hop : inst.op = .mfma
    · obtain ⟨o, ho, _⟩ := hover.exists_lookup hsize
      obtain ⟨f, hf, _⟩ := hfactor.exists_lookup hsize
      obtain ⟨o', ho', _⟩ := hover.exists_lookup hsize'
      obtain ⟨f', hf', _⟩ := hfactor.exists_lookup hsize'
      rw [hazard_of_matrix hop ho hf, Except.ok.injEq] at h
      obtain ⟨n', hn', hle⟩ := matrixNeeds_mono hregs (hover.ascending.lookup_mono hclass ho ho')
        (hfactor.ascending.lookup_mono hclass hf hf') h
      exact ⟨n', by rw [hazard_of_matrix hop ho' hf', hn'], hle⟩
    · simp only [hazard, hop, if_false] at h ⊢
      exact hwhen.mono w w' inst size size' n hregs hclass hsize hsize' h
  · intro w inst hop hsrc
    simp only [hazard, hop, reduceCtorEq, if_false]
    exact hwhen.idle w inst hop hsrc

/-- A write rule from gfx90a on is sound if each of its tables serves its windows. -/
theorem sound_of_matrixLatencies {r : Rule} {t : MatrixLatencies}
    (htrigger : r.trigger.isSome = true) (hhazard : r.hazard = some t.hazard)
    (hpolicy : r.policy = .persist) (hover : t.overlapped.Serves r.sizes)
    (hfactor : t.factor.Serves r.sizes) (hother : t.other.Serves r.sizes)
    (hrange : r.sizes.Within 0 20) : r.Sound := by
  have hjudge : r.judge = t.hazard := by
    funext w inst
    simp only [Rule.judge, hhazard]
  refine ⟨htrigger, ?_, ?_, hrange⟩
  · rw [hjudge]
    exact MatrixLatencies.hazard_sound hover hfactor hother
  · intro hclose
    rw [hpolicy] at hclose
    cases hclose

theorem writes_sound :
    SoundConflict fun w inst => inst.op = .accWrite && inst.writesAny w.regs where
  aged _ _ _ := rfl
  same _ _ inst hregs := by simp only [Window.writesAny_congr hregs inst]
  idle _ _ hop _ := by simp [hop]

theorem write908AccRead_serves : write908AccRead.Serves write908.sizes := by decide

theorem write908AccWrite_serves : write908AccWrite.Serves write908.sizes := by decide

/-- On gfx908 the smallest window is as long as the largest requirement of a matrix instruction. -/
theorem write908_size_ge {c size : Int64} (h : write908.sizes.lookup? c = some size) :
    4 ≤ size := by
  have hsizes : write908.sizes.Within 4 20 := by decide
  exact (hsizes.of_lookup h).1

theorem write908Hazard_sound : SoundHazard write908.sizes write908Hazard := by
  have hread := whenever_sound write908AccRead_serves reads_sound
  have hwrite := whenever_sound write908AccWrite_serves writes_sound
  -- The judgement on an accumulator write repeats its class test, which changes nothing.
  have hwriteEq : ∀ w inst, inst.op = .accWrite → write908Hazard w inst =
      whenever write908AccWrite (fun w inst => inst.op = .accWrite && inst.writesAny w.regs)
        w inst := by
    intro w inst hop
    simp [write908Hazard, whenever, hop]
  refine ⟨?_, ?_, ?_, ?_⟩
  · intro w slots inst
    rfl
  · intro w inst size hsize
    by_cases hwop : inst.op = .accWrite
    · rw [hwriteEq w inst hwop]
      exact hwrite.range w inst size hsize
    · unfold write908Hazard
      split
      next =>
        have hfour := write908_size_ge hsize
        exact ⟨_, rfl, matrixNeeds_range (by grind) (by grind) (by grind)⟩
      next => exact hread.range w inst size hsize
      next hop => exact absurd hop hwop
      next => exact ⟨none, rfl, by simp⟩
  · intro w w' inst size size' n hregs hclass hsize hsize' h
    by_cases hwop : inst.op = .accWrite
    · rw [hwriteEq w' inst hwop]
      rw [hwriteEq w inst hwop] at h
      exact hwrite.mono w w' inst size size' n hregs hclass hsize hsize' h
    · unfold write908Hazard at h ⊢
      split at h
      next =>
        rw [Except.ok.injEq] at h
        obtain ⟨n', hn', hle⟩ := matrixNeeds_mono hregs (Int64.le_refl 2) (Int64.le_refl 4) h
        exact ⟨n', by rw [hn'], hle⟩
      next => exact hread.mono w w' inst size size' n hregs hclass hsize hsize' h
      next hop => exact absurd hop hwop
      next => cases h
  · intro w inst hop hsrc
    simp only [write908Hazard, hop]

/-! ## Every rule -/

theorem readAddend908_sound : readAddend908.Sound :=
  sound_of_whenever rfl rfl (by decide) writes_sound

theorem readAddend90a_sound : readAddend90a.Sound :=
  sound_of_whenever rfl rfl (by decide) valuOverwrites_sound

theorem readAddend94x_sound : readAddend94x.Sound :=
  sound_of_whenever rfl rfl (by decide) valuOverwrites_sound

theorem write908_sound : write908.Sound :=
  ⟨rfl, write908Hazard_sound, by simp [write908], by decide⟩

theorem write90a_sound : write90a.Sound :=
  sound_of_matrixLatencies rfl rfl rfl (by decide) (by decide) (by decide) (by decide)

theorem write94x_sound : write94x.Sound :=
  sound_of_matrixLatencies rfl rfl rfl (by decide) (by decide) (by decide) (by decide)

theorem write950_sound : write950.Sound :=
  sound_of_matrixLatencies rfl rfl rfl (by decide) (by decide) (by decide) (by decide)

theorem scalarToMemory_sound : scalarToMemory.Sound :=
  sound_of_whenever rfl rfl (by decide)
    (reads_sound.restrict fun inst => inst.op.isVmem || inst.op = .lds)

theorem conditionToDivision_sound : conditionToDivision.Sound :=
  sound_of_whenever rfl rfl (by decide) (.ofInstruction fun _ hop => by simp [hop])

theorem maskToMatrix_sound : maskToMatrix.Sound :=
  sound_of_whenever rfl rfl (by decide) (.ofInstruction fun _ hop => by simp [hop])

theorem transcendentalUse_sound : transcendentalUse.Sound :=
  sound_of_whenever rfl rfl (by decide)
    (reads_sound.restrict fun inst => inst.op.isValu && inst.op ≠ .transcendental)

theorem descriptorUse_sound : descriptorUse.Sound :=
  sound_of_whenever rfl rfl (by decide) (.ofInstruction fun _ hop => by simp [hop])

/-- Every rule of the catalogue is sound. -/
theorem rules_sound : ∀ r ∈ rules, r.Sound := by
  intro r hr
  simp only [rules, List.mem_cons, List.not_mem_nil, or_false] at hr
  rcases hr with rfl | rfl | rfl | rfl | rfl | rfl | rfl | rfl | rfl | rfl | rfl | rfl
  · exact readAddend908_sound
  · exact readAddend90a_sound
  · exact readAddend94x_sound
  · exact write908_sound
  · exact write90a_sound
  · exact write94x_sound
  · exact write950_sound
  · exact scalarToMemory_sound
  · exact conditionToDivision_sound
  · exact maskToMatrix_sound
  · exact transcendentalUse_sound
  · exact descriptorUse_sound

theorem write908_mem_rules : write908 ∈ rules :=
  List.mem_of_getElem? (rfl : rules[3]? = some write908)

end Interlock.Catalogue
