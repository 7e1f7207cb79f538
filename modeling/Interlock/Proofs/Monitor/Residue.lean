import Interlock.Monitor.Residue
import Interlock.Proofs.Monitor.Rest

/-! # What steps leave behind

A commit with enough padding settles every window, so no place is overwritten by half: whether or
not the instruction can then open its window, a residue in which every window has one place stays
one, and shows the windows that a monitor would hold. A step always commits with enough padding.
Whatever steps of a sound rule leave behind, rejected ones included, is therefore a monitor with
exact ages.
-/

namespace Interlock

/-- The window that an instruction opens, none if it cannot open the one it should. -/
def Rule.opened (r : Rule) (inst : Instruction) : Option Window :=
  match r.opening inst with
  | .ok opened => opened
  | .error _ => none

/-- The monitor after a commit with enough padding. An instruction that cannot open its window is
rejected, but the windows have aged by then. -/
def Monitor.settled (m : Monitor) (inst : Instruction) (padding : Int64) : Monitor :=
  ⟨m.rule, Window.adopt (m.rule.opened inst) (m.windows.filterMap (m.rule.survivor inst padding))⟩

@[simp] theorem Monitor.settled_rule (m : Monitor) (inst : Instruction) (padding : Int64) :
    (m.settled inst padding).rule = m.rule := rfl

namespace Residue

/-- Every window of the pool that is shown has one place. -/
structure Tidy (r : Residue) : Prop where
  bounds : ∀ place ∈ r.places, place < r.pool.size
  nodup : r.places.Nodup

theorem Tidy.fresh (rule : Rule) : Tidy { rule } :=
  ⟨fun _ hplace => absurd hplace List.not_mem_nil, List.nodup_nil⟩

/-- The monitor that holds the windows as they are shown. -/
def toMonitor (r : Residue) : Monitor := ⟨r.rule, r.windows⟩

/-- What steps over some instructions leave behind, whether they are accepted or not. -/
def follow (r : Residue) (insts : List Instruction) : Residue :=
  insts.foldl (fun left inst => (left.step inst).2) r

theorem peek_eq (r : Residue) (inst : Instruction) : r.peek inst = r.toMonitor.peek inst := rfl

/-! ## Commits with enough padding -/

/-- The other places show the same windows before and after one window is settled. -/
theorem filterMap_setIfInBounds {place : Nat} {places : List Nat} (hfresh : place ∉ places)
    (pool : Array Window) (w : Window) :
    places.filterMap ((pool.setIfInBounds place w)[·]?) = places.filterMap (pool[·]?) := by
  refine List.filterMap_congr fun k hk => Array.getElem?_setIfInBounds_ne ?_
  exact fun heq => hfresh (heq ▸ hk)

theorem settlePlaces_eq {rule : Rule} {inst : Instruction} {padding : Int64} {pool : Array Window}
    {places : List Nat} (hbounds : ∀ place ∈ places, place < pool.size) (hnodup : places.Nodup)
    (hsettle : ∀ w ∈ places.filterMap (pool[·]?), ∃ next, rule.settle inst padding w = .ok next) :
    ∃ pool' kept, settlePlaces rule inst padding pool places = (pool', kept, none) ∧
      kept.Sublist places ∧ pool'.size = pool.size ∧ (∀ k ∉ places, pool'[k]? = pool[k]?) ∧
      places.filterMap (pool'[·]?) =
        (places.filterMap (pool[·]?)).map (·.aged (padding + inst.waitStates)) ∧
      kept.filterMap (pool'[·]?) =
        (places.filterMap (pool[·]?)).filterMap (rule.survivor inst padding) := by
  induction places generalizing pool with
  | nil => exact ⟨pool, [], rfl, .slnil, rfl, fun _ _ => rfl, rfl, rfl⟩
  | cons place rest ih =>
      obtain ⟨hplace, hrest⟩ := List.forall_mem_cons.mp hbounds
      obtain ⟨hfresh, hnodup⟩ := List.nodup_cons.mp hnodup
      obtain ⟨w, hw⟩ : ∃ w, pool[place]? = some w := ⟨_, Array.getElem?_eq_getElem hplace⟩
      rw [List.filterMap_cons_some hw] at hsettle
      obtain ⟨⟨next, stays⟩, hnext⟩ := hsettle w List.mem_cons_self
      have hothers := filterMap_setIfInBounds hfresh pool next
      obtain ⟨pool', kept, hpool', hkept, hsize, hframe, haged, hwindows⟩ :=
        @ih (pool.setIfInBounds place next) (by simpa using hrest) hnodup
          (by rw [hothers]; exact fun v hv => hsettle v (List.mem_cons_of_mem w hv))
      have hmine : pool'[place]? = some next := by
        rw [hframe place hfresh]
        simp [hplace]
      refine ⟨pool', if stays then place :: kept else kept, ?_, ?_, ?_, ?_, ?_, ?_⟩
      · simp only [settlePlaces, hw, hnext, hpool']
      · cases stays with
        | true => exact hkept.cons_cons place
        | false => exact hkept.cons place
      · rw [hsize, Array.size_setIfInBounds]
      · intro k hk
        rw [List.mem_cons, not_or] at hk
        rw [hframe k hk.2, Array.getElem?_setIfInBounds_ne (Ne.symm hk.1)]
      · rw [List.filterMap_cons_some hmine, List.filterMap_cons_some hw, haged, hothers,
          List.map_cons, Rule.settle_eq_ok hnext]
      · rw [hothers] at hwindows
        rw [List.filterMap_cons_some hw]
        cases stays with
        | true =>
            have hsurvivor : rule.survivor inst padding w = some next := by
              simp [Rule.survivor, hnext]
            rw [List.filterMap_cons_some hsurvivor, ← hwindows]
            simp [hmine]
        | false =>
            have hsurvivor : rule.survivor inst padding w = none := by
              simp [Rule.survivor, hnext]
            rw [List.filterMap_cons_none hsurvivor, ← hwindows]
            simp

variable {r : Residue} {inst : Instruction} {owed padding : Int64}

/-- Whether a place shows a window over exactly these registers. -/
def tracksAt (pool : Array Window) (regs : List Register) (place : Nat) : Bool :=
  match pool[place]? with
  | some old => old.tracks regs
  | none => false

theorem tracksAt_of_getElem? {pool : Array Window} {place : Nat} {old : Window}
    (h : pool[place]? = some old) (regs : List Register) :
    tracksAt pool regs place = old.tracks regs := by
  simp only [tracksAt, h]

/-- A window is placed among those that are shown as it is placed among the windows themselves. -/
theorem place_shown (w : Window) {pool : Array Window} {places : List Nat}
    (hbounds : ∀ place ∈ places, place < pool.size) :
    w.place (places.filterMap (pool[·]?)) =
      (places.takeWhile (!tracksAt pool w.regs ·)).filterMap (pool[·]?) ++
        w :: ((places.dropWhile (!tracksAt pool w.regs ·)).drop 1).filterMap (pool[·]?) := by
  induction places with
  | nil => rfl
  | cons place rest ih =>
      obtain ⟨hplace, hrest⟩ := List.forall_mem_cons.mp hbounds
      obtain ⟨old, hold⟩ : ∃ old, pool[place]? = some old :=
        ⟨_, Array.getElem?_eq_getElem hplace⟩
      have hat := tracksAt_of_getElem? hold w.regs
      rw [List.filterMap_cons_some hold, Window.place]
      by_cases hsame : old.tracks w.regs = true
      · simp [hat, hsame]
      · rw [Bool.not_eq_true] at hsame
        simp [hat, hsame, hold, ih hrest]

theorem filterMap_push {pool : Array Window} {places : List Nat}
    (hbounds : ∀ place ∈ places, place < pool.size) (w : Window) :
    places.filterMap ((pool.push w)[·]?) = places.filterMap (pool[·]?) := by
  refine List.filterMap_congr fun place hplace => ?_
  rw [Array.getElem?_push, if_neg (hbounds place hplace).ne]

theorem Tidy.reveal (h : r.Tidy) (w : Window) :
    (r.reveal w).Tidy ∧ (r.reveal w).windows = w.place r.windows := by
  have hplaces : (r.reveal w).places = r.places.takeWhile (!tracksAt r.pool w.regs ·) ++
      r.pool.size :: (r.places.dropWhile (!tracksAt r.pool w.regs ·)).drop 1 := rfl
  have hpool : (r.reveal w).pool = r.pool.push w := rfl
  have hsub : (r.places.takeWhile (!tracksAt r.pool w.regs ·) ++
      (r.places.dropWhile (!tracksAt r.pool w.regs ·)).drop 1).Sublist r.places := by
    have hparts := (List.Sublist.refl (r.places.takeWhile (!tracksAt r.pool w.regs ·))).append
      (List.drop_sublist 1 (r.places.dropWhile (!tracksAt r.pool w.regs ·)))
    rwa [List.takeWhile_append_dropWhile] at hparts
  have hbounds := fun place hplace => h.bounds place (hsub.subset hplace)
  obtain ⟨hbefore, hafter⟩ := List.forall_mem_append.mp hbounds
  refine ⟨⟨?_, ?_⟩, ?_⟩
  · intro place hplace
    rw [hplaces, List.mem_append, List.mem_cons] at hplace
    rw [hpool, Array.size_push]
    rcases hplace with hplace | rfl | hplace
    · exact Nat.lt_succ_of_lt (hbefore place hplace)
    · exact Nat.lt_succ_self _
    · exact Nat.lt_succ_of_lt (hafter place hplace)
  · rw [hplaces, List.nodup_middle, List.nodup_cons]
    exact ⟨fun hmem => Nat.lt_irrefl _ (hbounds _ hmem), h.nodup.sublist hsub⟩
  · rw [windows, windows, place_shown w h.bounds, hplaces, hpool, List.filterMap_append,
      List.filterMap_cons_some Array.getElem?_push_size, filterMap_push hbefore,
      filterMap_push hafter]

/-- A commit that every window accepts is one to the monitor. -/
theorem Tidy.commit_of_settle (h : r.Tidy)
    (hsettle : ∀ w ∈ r.windows, ∃ next, r.rule.settle inst padding w = .ok next) :
    ∃ left : Residue, r.commit inst padding = ((r.rule.opening inst).map fun _ => (), left) ∧
      left.Tidy ∧ left.toMonitor = r.toMonitor.settled inst padding := by
  obtain ⟨pool, kept, hplaces, hkept, hsize, _, _, hwindows⟩ :=
    settlePlaces_eq h.bounds h.nodup hsettle
  have hsettled : (⟨r.rule, pool, kept⟩ : Residue).Tidy :=
    ⟨fun place hplace => hsize ▸ h.bounds place (hkept.subset hplace), h.nodup.sublist hkept⟩
  simp only [Residue.commit, hplaces, Monitor.settled, Rule.opened, toMonitor]
  cases hopening : r.rule.opening inst with
  | error e =>
      refine ⟨⟨r.rule, pool, kept⟩, rfl, hsettled, ?_⟩
      simp [Window.adopt, windows, hwindows]
  | ok opened =>
      cases opened with
      | none =>
          refine ⟨⟨r.rule, pool, kept⟩, rfl, hsettled, ?_⟩
          simp [Window.adopt, windows, hwindows]
      | some w =>
          obtain ⟨htidy, hrevealed⟩ := hsettled.reveal w
          refine ⟨_, rfl, htidy, ?_⟩
          rw [hrevealed, windows, hwindows]
          rfl

/-- With enough padding, a commit to a residue is one to its monitor. -/
theorem Tidy.commit (h : r.Tidy) (hpeek : r.peek inst = .ok owed) (hle : owed ≤ padding) :
    ∃ left : Residue, r.commit inst padding = ((r.rule.opening inst).map fun _ => (), left) ∧
      left.Tidy ∧ left.toMonitor = r.toMonitor.settled inst padding := by
  refine h.commit_of_settle fun w hw => ?_
  obtain ⟨need, hcheck, hlack⟩ := Monitor.lack_le_of_peek (m := r.toMonitor) hpeek hle hw
  exact ⟨_, Rule.settle_of_check hcheck (Or.inr hlack)⟩

theorem Tidy.of_commit (h : r.Tidy) (hpeek : r.peek inst = .ok owed) (hle : owed ≤ padding)
    {result : Except RuleError Unit} {left : Residue}
    (hcommit : r.commit inst padding = (result, left)) :
    left.Tidy ∧ left.toMonitor = r.toMonitor.settled inst padding := by
  obtain ⟨left', hcommit', hleft⟩ := h.commit hpeek hle
  rw [hcommit, Prod.mk.injEq] at hcommit'
  rw [hcommit'.2]
  exact hleft

end Residue

/-! ## Exact ages -/

theorem Window.Young.aged {w : Window} (hw : w.Young) {slots : Int64} (hlow : 0 ≤ slots)
    (hhigh : slots.toInt + 20 < 2 ^ 63) (hopen : (w.aged slots).inert = false) :
    (w.aged slots).Young := by
  have hsum := hw.toInt_elapsed_add hlow hhigh
  have hnonneg := Word.toInt_nonneg.mp hw.nonneg
  have hslots := Word.toInt_nonneg.mp hlow
  refine ⟨?_, ?_, hw.size_le⟩
  · rw [Word.toInt_nonneg, aged_elapsed, hsum]
    omega
  · exact Int64.not_le.mp (of_decide_eq_false hopen)

theorem Rule.Sound.young_opened {r : Rule} (hr : r.Sound) {inst : Instruction} {w : Window}
    (h : r.opening inst = .ok (some w)) : w.Young := by
  obtain ⟨hnonneg, hle⟩ := hr.size_range (hr.admits_opened h)
  obtain ⟨_, _, size, _, hzero, rfl⟩ := hr.opening_eq_some_iff.mp h
  exact ⟨Int64.le_refl 0, Int64.lt_of_le_of_ne hnonneg (Ne.symm hzero), hle⟩

theorem Rule.opening_of_opened {r : Rule} {inst : Instruction} {w : Window}
    (h : r.opened inst = some w) : r.opening inst = .ok (some w) := by
  unfold opened at h
  split at h
  next opened hopening => rw [hopening, h]
  next => contradiction

/-- The issue slots of an instruction and its padding, as long as a word can hold them. -/
theorem Instruction.toInt_slots {inst : Instruction} {padding : Int64} (hnonneg : 0 ≤ padding)
    (hslots : padding.toInt + inst.waitStates.toInt + 20 < 2 ^ 63) :
    0 ≤ padding + inst.waitStates ∧
      (padding + inst.waitStates).toInt = padding.toInt + inst.waitStates.toInt := by
  have hone := inst.one_le_waitStates
  rw [Word.toInt_nonneg] at hnonneg ⊢
  have hsum : (padding + inst.waitStates).toInt = padding.toInt + inst.waitStates.toInt :=
    Word.toInt_add (by omega) (by omega)
  exact ⟨by omega, hsum⟩

namespace Monitor

variable {m : Monitor} {inst : Instruction} {owed padding : Int64}

/-- A window after a commit was just opened, or was open before and has aged. -/
theorem of_mem_settled {w : Window} (hw : w ∈ (m.settled inst padding).windows) :
    m.rule.opening inst = .ok (some w) ∨
      ∃ old ∈ m.windows, w = old.aged (padding + inst.waitStates) ∧ w.inert = false := by
  rcases Window.mem_of_mem_adopt hw with hopened | hkept
  · exact Or.inl (Rule.opening_of_opened hopened)
  · obtain ⟨old, hold, hsurvivor⟩ := List.mem_filterMap.mp hkept
    exact Or.inr ⟨old, hold, Rule.survivor_eq_some hsurvivor⟩

theorem Exact.fresh {rule : Rule} (hrule : rule.Sound) : Exact { rule } :=
  ⟨hrule, fun _ hw => absurd hw List.not_mem_nil, fun _ hw => absurd hw List.not_mem_nil⟩

theorem Exact.exists_peek (hm : m.Exact) (inst : Instruction) : ∃ owed, m.peek inst = .ok owed :=
  hm.sound.exists_peek hm.admits inst

/-- What a window of an exact monitor asks for is the difference to its age. -/
theorem Exact.toInt_lack (hm : m.Exact) {w : Window} (hw : w ∈ m.windows) {n : Int64}
    (hcheck : m.rule.check w inst = .ok (some n)) :
    (Rule.lack (some n) w).toInt = max 0 (n.toInt - w.elapsed.toInt) :=
  Window.toInt_remaining (hm.young w hw).nonneg (hm.sound.check_range (hm.admits w hw) hcheck).1

/-- No instruction is owed more than the largest of the windows' sizes. -/
theorem Exact.peek_le_of_size_le (hm : m.Exact) {limit : Int64} (hlimit : 0 ≤ limit)
    (hsizes : ∀ w ∈ m.windows, w.size ≤ limit) (h : m.peek inst = .ok owed) : owed ≤ limit := by
  rcases (Rule.owedAfter_spec h).2.2 with rfl | ⟨w, hw, howed⟩
  · exact hlimit
  · obtain ⟨need, hcheck, _⟩ := hm.sound.check_eq (hm.admits w hw) inst
    rw [Rule.owedTo_of_check hcheck, Except.ok.injEq] at howed
    rw [← howed]
    cases need with
    | none => exact hlimit
    | some n =>
        have hage := Word.toInt_nonneg.mp (hm.young w hw).nonneg
        obtain ⟨hn, hsize⟩ := hm.sound.check_range (hm.admits w hw) hcheck
        have hle := Int64.le_iff_toInt_le.mp (Int64.le_trans hsize (hsizes w hw))
        rw [Word.toInt_nonneg] at hn
        rw [Int64.le_iff_toInt_le, hm.toInt_lack hw hcheck]
        omega

theorem Exact.peek_le (hm : m.Exact) (h : m.peek inst = .ok owed) : owed.toInt ≤ 20 :=
  Int64.le_iff_toInt_le.mp
    (hm.peek_le_of_size_le (by decide) (fun w hw => (hm.young w hw).size_le) h)

theorem Exact.peek_le_max (hm : m.Exact) (h : m.peek inst = .ok owed) :
    owed ≤ m.rule.sizes.max :=
  hm.peek_le_of_size_le m.rule.sizes.max_nonneg
    (fun w hw => LatencyTable.le_max_of_lookup (hm.admits w hw)) h

theorem Exact.settled (hm : m.Exact) (hnonneg : 0 ≤ padding)
    (hslots : padding.toInt + inst.waitStates.toInt + 20 < 2 ^ 63) :
    (m.settled inst padding).Exact := by
  obtain ⟨hlow, hsum⟩ := Instruction.toInt_slots hnonneg hslots
  have hwindows : ∀ w ∈ (m.settled inst padding).windows, m.rule.Admits w ∧ w.Young := by
    intro w hw
    rcases of_mem_settled hw with hopening | ⟨old, hold, rfl, hopen⟩
    · exact ⟨hm.sound.admits_opened hopening, hm.sound.young_opened hopening⟩
    · exact ⟨(hm.admits old hold).aged _, (hm.young old hold).aged hlow (by omega) hopen⟩
  exact ⟨hm.sound, fun w hw => (hwindows w hw).1, fun w hw => (hwindows w hw).2⟩

end Monitor

/-! ## Steps -/

namespace Residue

variable {r : Residue} {inst : Instruction}

/-- A step commits with the padding that the windows ask for. -/
theorem Tidy.step (h : r.Tidy) {owed : Int64} (hpeek : r.peek inst = .ok owed) :
    (r.step inst).2.Tidy ∧ (r.step inst).2.toMonitor = r.toMonitor.settled inst owed := by
  obtain ⟨left, hcommit, htidy, hleft⟩ := h.commit hpeek (Int64.le_refl owed)
  have hstep : (r.step inst).2 = left := by
    simp only [Residue.step, hpeek, hcommit]
    cases r.rule.opening inst <;> rfl
  rw [hstep]
  exact ⟨htidy, hleft⟩

/-- What holds of a fresh monitor of a sound rule and is kept by commits with the padding asked for
holds of whatever steps leave behind. -/
theorem follow_invariant {rule : Rule} (hrule : rule.Sound) {insts : List Instruction}
    (invariant : Monitor → Prop) (hadmits : ∀ m, invariant m → ∀ w ∈ m.windows, m.rule.Admits w)
    (hstart : invariant { rule })
    (hstep : ∀ m inst owed, inst ∈ insts → invariant m → m.peek inst = .ok owed →
      invariant (m.settled inst owed)) :
    let left := ({ rule } : Residue).follow insts
    left.Tidy ∧ invariant left.toMonitor ∧ left.rule = rule := by
  have hrun : ∀ r : Residue, r.Tidy → invariant r.toMonitor → r.rule = rule →
      (r.follow insts).Tidy ∧ invariant (r.follow insts).toMonitor ∧
        (r.follow insts).rule = rule := by
    induction insts with
    | nil => exact fun r htidy hr hsame => ⟨htidy, hr, hsame⟩
    | cons inst rest ih =>
        intro r htidy hr hsame
        have hsound : r.rule.Sound := hsame.symm ▸ hrule
        obtain ⟨owed, hpeek⟩ := hsound.exists_peek (hadmits _ hr) inst
        obtain ⟨htidy', hnext⟩ := htidy.step hpeek
        refine ih ?_ _ htidy' ?_ ((congrArg Monitor.rule hnext).trans hsame)
        · exact fun m k owed hk => hstep m k owed (List.mem_cons_of_mem inst hk)
        · rw [hnext]
          exact hstep _ inst owed List.mem_cons_self hr hpeek
  exact hrun { rule } (.fresh rule) hstart rfl

/-- The windows that steps leave behind are open, whatever their ages. -/
theorem follow_open {rule : Rule} (hrule : rule.Sound) (insts : List Instruction) :
    let left := ({ rule } : Residue).follow insts
    left.Tidy ∧ (∀ w ∈ left.windows, rule.Admits w ∧ w.inert = false) ∧ left.rule = rule := by
  intro left
  let invariant (m : Monitor) : Prop :=
    m.rule = rule ∧ ∀ w ∈ m.windows, rule.Admits w ∧ w.inert = false
  have hstart : invariant { rule } := ⟨rfl, fun _ hw => absurd hw List.not_mem_nil⟩
  have hstep : ∀ m inst owed, invariant m → invariant (m.settled inst owed) := by
    rintro ⟨_, windows⟩ inst owed ⟨rfl, hm⟩
    refine ⟨rfl, fun w hw => ?_⟩
    rcases Monitor.of_mem_settled hw with hopening | ⟨old, hold, rfl, hstays⟩
    · have hyoung := hrule.young_opened hopening
      exact ⟨hrule.admits_opened hopening, decide_eq_false (Int64.not_le.mpr hyoung.lt_size)⟩
    · exact ⟨(hm old hold).1.aged _, hstays⟩
  obtain ⟨htidy, ⟨_, hopen⟩, hsame⟩ : left.Tidy ∧ invariant left.toMonitor ∧ left.rule = rule :=
    follow_invariant hrule invariant (fun m ⟨hsame, hm⟩ w hw => hsame.symm ▸ (hm w hw).1) hstart
      fun m inst owed _ hm _ => hstep m inst owed hm
  exact ⟨htidy, hopen, hsame⟩

/-- Steps of a sound rule leave a monitor with exact ages behind. -/
theorem follow_exact {rule : Rule} (hrule : rule.Sound) {insts : List Instruction}
    (hwaits : ∀ inst ∈ insts, inst.waitStates.toInt ≤ 2 ^ 62) :
    let left := ({ rule } : Residue).follow insts
    left.Tidy ∧ left.toMonitor.Exact ∧ left.rule = rule := by
  refine follow_invariant hrule Monitor.Exact (fun m hm => hm.admits) (.fresh hrule) ?_
  intro m inst owed hinst hm hpeek
  have howed := hm.peek_le hpeek
  have hwait := hwaits inst hinst
  exact hm.settled (Monitor.peek_nonneg hpeek) (by omega)

end Residue

end Interlock
