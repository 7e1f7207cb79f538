import Interlock.Proofs.Monitor.Commit

/-! # Windows and the history behind them

A history lists the committed instructions, the latest first, with the padding in front of each. The
windows of a monitor are exactly what its history calls for: every open window was opened by an
instruction of the history that was not followed by another opening over the same registers, and
every such instruction has its window unless so many wait states passed that nothing can require
more. Ages are exact up to the wrapping of words.
-/

namespace Interlock

/-- One committed instruction and the padding that was issued in front of it. -/
structure Issue where
  inst : Instruction
  padding : Int64

namespace Issue

/-- The exact number of issue slots taken by an instruction and its padding. -/
def slots (issue : Issue) : Int :=
  issue.padding.toInt + issue.inst.waitStates.toInt

/-- The slots can be added to the age of any window that is not inert yet. -/
def Modest (issue : Issue) : Prop :=
  issue.slots + 20 < 2 ^ 63

end Issue

theorem Instruction.one_le_waitStates (inst : Instruction) : 1 ≤ inst.waitStates.toInt := by
  unfold waitStates
  split
  next hcount =>
    have hlt := Int64.lt_iff_toInt_lt.mp hcount.2
    exact Int.le_of_lt hlt
  next => decide

theorem Instruction.waitStates_nonneg (inst : Instruction) : 0 ≤ inst.waitStates := by
  have hone := inst.one_le_waitStates
  exact Word.toInt_nonneg.mpr (by omega)

theorem Instruction.waitStates_le_of_count {inst : Instruction} {bound : Int} (hbound : 1 ≤ bound)
    (h : inst.op = .nop → inst.count.toInt ≤ bound) : inst.waitStates.toInt ≤ bound := by
  unfold waitStates
  split
  next hcount => exact h hcount.1
  next => exact hbound

theorem Instruction.waitStates_le {inst : Instruction}
    (h : inst.op = .nop → inst.count.toInt ≤ 2 ^ 62) : inst.waitStates.toInt ≤ 2 ^ 62 :=
  waitStates_le_of_count (by norm_num) h

/-- The exact number of issue slots of a history. -/
def slotsOf (history : List Issue) : Int :=
  (history.map Issue.slots).sum

@[simp] theorem slotsOf_nil : slotsOf [] = 0 := rfl

@[simp] theorem slotsOf_cons (issue : Issue) (history : List Issue) :
    slotsOf (issue :: history) = issue.slots + slotsOf history := by
  simp [slotsOf]

@[simp] theorem slotsOf_append (later earlier : List Issue) :
    slotsOf (later ++ earlier) = slotsOf later + slotsOf earlier := by
  simp [slotsOf]

theorem Issue.slots_pos {issue : Issue} (h : 0 ≤ issue.padding) : 0 < issue.slots := by
  have hwait := issue.inst.one_le_waitStates
  rw [Word.toInt_nonneg] at h
  unfold slots
  omega

theorem slotsOf_nonneg {history : List Issue} (h : ∀ issue ∈ history, 0 ≤ issue.padding) :
    0 ≤ slotsOf history := by
  induction history with
  | nil => simp
  | cons issue history ih =>
      have hissue := Issue.slots_pos (h issue List.mem_cons_self)
      have hrest := ih fun k hk => h k (List.mem_cons_of_mem issue hk)
      rw [slotsOf_cons]
      omega

namespace Rule

/-- An instruction that opens a window over the registers of `w`, in whose place it then stands. -/
def Reopens (r : Rule) (inst : Instruction) (w : Window) : Prop :=
  ∃ new, r.opening inst = .ok (some new) ∧ Window.sameRanges new.regs w.regs = true

/-- An issue of the history opened the window, `later` was issued after it, and nothing of that
opened another window over the same registers. -/
structure Current (r : Rule) (history later : List Issue) (w : Window) : Prop where
  split : ∃ issue earlier, history = later ++ issue :: earlier ∧
    r.opening issue.inst = .ok (some w)
  kept : ∀ issue ∈ later, ¬ r.Reopens issue.inst w

/-- The windows are those that the history calls for. -/
structure Remembers (r : Rule) (history : List Issue) (windows : List Window) : Prop where
  padding_nonneg : ∀ issue ∈ history, 0 ≤ issue.padding
  /-- No instruction of the history failed to open its window. -/
  opening : ∀ issue ∈ history, ∃ opened, r.opening issue.inst = .ok opened
  distinct : Window.Distinct windows
  /-- An open window was opened by the history. Unless counts are excessive, its age is exact. -/
  origin : ∀ w ∈ windows, ∃ later opened, r.Current history later opened ∧
    w = opened.aged (.ofInt (slotsOf later)) ∧
    ((∀ issue ∈ later, issue.Modest) → slotsOf later < opened.size.toInt)
  /-- What the history opened is open, or can require nothing more. -/
  complete : ∀ later opened, r.Current history later opened →
    opened.aged (.ofInt (slotsOf later)) ∈ windows ∨ opened.size.toInt ≤ slotsOf later

variable {r : Rule} {history : List Issue} {windows : List Window}

theorem Current.admits (hr : r.Sound) {later : List Issue} {w : Window}
    (h : r.Current history later w) : r.Admits w := by
  obtain ⟨issue, earlier, _, hopening⟩ := h.split
  exact hr.admits_opened hopening

theorem Current.later_subset {later : List Issue} {w : Window} (h : r.Current history later w) :
    ∀ issue ∈ later, issue ∈ history := by
  obtain ⟨_, earlier, rfl, _⟩ := h.split
  exact fun issue hissue => List.mem_append_left _ hissue

theorem Current.opening {issue : Issue} {w : Window} (h : r.opening issue.inst = .ok (some w)) :
    r.Current (issue :: history) [] w :=
  ⟨⟨issue, history, rfl, h⟩, by simp⟩

theorem Current.cons {later : List Issue} {w : Window} (h : r.Current history later w)
    {issue : Issue} (hissue : ¬ r.Reopens issue.inst w) :
    r.Current (issue :: history) (issue :: later) w := by
  obtain ⟨old, earlier, rfl, hopening⟩ := h.split
  refine ⟨⟨old, earlier, rfl, hopening⟩, ?_⟩
  intro k hk
  rcases List.mem_cons.mp hk with rfl | hk
  · exact hissue
  · exact h.kept k hk

/-- A current window was opened by the latest issue, or was current before it. -/
theorem Current.of_cons {issue : Issue} {later : List Issue} {w : Window}
    (h : r.Current (issue :: history) later w) :
    (later = [] ∧ r.opening issue.inst = .ok (some w)) ∨
      ∃ later', later = issue :: later' ∧ r.Current history later' w ∧
        ¬ r.Reopens issue.inst w := by
  obtain ⟨old, earlier, hsplit, hopening⟩ := h.split
  cases later with
  | nil =>
      rw [List.nil_append, List.cons.injEq] at hsplit
      exact Or.inl ⟨rfl, hsplit.1 ▸ hopening⟩
  | cons k later' =>
      rw [List.cons_append, List.cons.injEq] at hsplit
      obtain ⟨rfl, hsplit⟩ := hsplit
      exact Or.inr ⟨later', rfl,
        ⟨⟨old, earlier, hsplit, hopening⟩, fun k hk => h.kept k (List.mem_cons_of_mem _ hk)⟩,
        h.kept _ List.mem_cons_self⟩

theorem Remembers.nil (r : Rule) : r.Remembers [] [] := by
  refine ⟨by simp, by simp, List.Pairwise.nil, by simp, ?_⟩
  intro later opened h
  obtain ⟨issue, earlier, hsplit, _⟩ := h.split
  simp at hsplit

namespace Remembers

theorem admits (hr : r.Sound) (h : r.Remembers history windows) {w : Window} (hw : w ∈ windows) :
    r.Admits w := by
  obtain ⟨later, opened, hcurrent, rfl, _⟩ := h.origin w hw
  exact (hcurrent.admits hr).aged _

theorem slotsOf_later_nonneg (h : r.Remembers history windows) {later : List Issue} {w : Window}
    (hcurrent : r.Current history later w) : 0 ≤ slotsOf later :=
  slotsOf_nonneg fun k hk => h.padding_nonneg k (hcurrent.later_subset k hk)

/-- Issuing one more instruction adds its slots to the age of a window. -/
theorem aged_issue (opened : Window) (later : List Issue) (issue : Issue) :
    (opened.aged (.ofInt (slotsOf later))).aged (issue.padding + issue.inst.waitStates) =
      opened.aged (.ofInt (slotsOf (issue :: later))) := by
  have hslots : Int64.ofInt issue.slots = issue.padding + issue.inst.waitStates := by
    rw [Issue.slots, Int64.ofInt_add, Int64.ofInt_toInt, Int64.ofInt_toInt]
  rw [Window.aged_aged, slotsOf_cons, Int64.ofInt_add, hslots, Int64.add_comm]

/-- The age of a window is the number of slots issued since it was opened, wrapped to a word. -/
theorem elapsed_eq (hr : r.Sound) {later : List Issue} {opened : Window}
    (h : r.Current history later opened) (slots : Int) :
    (opened.aged (.ofInt slots)).elapsed = .ofInt slots := by
  obtain ⟨issue, earlier, _, hopening⟩ := h.split
  obtain ⟨_, _, size, _, _, rfl⟩ := hr.opening_eq_some_iff.mp hopening
  exact Int64.zero_add _

/-- A window that a commit drops can require nothing more: either it says so itself, or its conflict
asked for the whole window and got it. -/
theorem size_le_of_dropped (hr : r.Sound) (h : r.Remembers history windows) {later : List Issue}
    {opened : Window} (hcurrent : r.Current history later opened) {issue : Issue}
    (hpadding : 0 ≤ issue.padding) {need : Option Int64}
    (hcheck : r.check (opened.aged (.ofInt (slotsOf later))) issue.inst = .ok need)
    (hlack : lack need (opened.aged (.ofInt (slotsOf later))) ≤ issue.padding)
    (hdropped : r.survivor issue.inst issue.padding (opened.aged (.ofInt (slotsOf later))) = none) :
    opened.size.toInt ≤ slotsOf (issue :: later) := by
  have hadmits := hcurrent.admits hr
  have hlater := h.slotsOf_later_nonneg hcurrent
  have hissue := Issue.slots_pos hpadding
  -- An age that wrapped may hide that the window is inert, but never makes it look so.
  rcases survivor_eq_none hcheck (Or.inr hlack) hdropped with hinert | ⟨hhit, hpolicy⟩
  · rw [aged_issue] at hinert
    have hslots : 0 ≤ slotsOf (issue :: later) := by
      rw [slotsOf_cons]
      omega
    have hsize := Window.size_le_of_inert hslots (elapsed_eq hr hcurrent _) hinert
    rwa [Window.aged_size] at hsize
  · obtain ⟨nops, rfl⟩ := Option.isSome_iff_exists.mp hhit
    have hsize := hr.check_closing (hadmits.aged _) hpolicy hcheck
    have hneed := Window.need_le_of_remaining_le hlater (elapsed_eq hr hcurrent _)
      (hr.check_range (hadmits.aged _) hcheck).1 hpadding hlack
    have hwait := issue.inst.one_le_waitStates
    rw [hsize, Window.aged_size] at hneed
    rw [slotsOf_cons, Issue.slots]
    omega

/-- A window that survives a commit is younger than its size if counts are not excessive. -/
theorem lt_size_of_survivor (hr : r.Sound) (h : r.Remembers history windows) {later : List Issue}
    {opened : Window} (hcurrent : r.Current history later opened)
    (hage : (∀ issue ∈ later, issue.Modest) → slotsOf later < opened.size.toInt) {issue : Issue}
    (hpadding : 0 ≤ issue.padding)
    (hinert : (opened.aged (.ofInt (slotsOf (issue :: later)))).inert = false)
    (hmodest : ∀ k ∈ issue :: later, k.Modest) :
    slotsOf (issue :: later) < opened.size.toInt := by
  have hlater := h.slotsOf_later_nonneg hcurrent
  have hissue := Issue.slots_pos hpadding
  have hissueModest := hmodest issue List.mem_cons_self
  have hyoung := hage fun k hk => hmodest k (List.mem_cons_of_mem issue hk)
  have hsize := Int64.le_iff_toInt_le.mp (hr.size_range (hcurrent.admits hr)).2
  have hlimit : (20 : Int64).toInt = 20 := by decide
  -- The sum is still a word, so the age that the window was dropped by is exact.
  have hexact : (Int64.ofInt (slotsOf (issue :: later))).toInt = slotsOf (issue :: later) := by
    rw [slotsOf_cons]
    unfold Issue.Modest at hissueModest
    exact Int64.toInt_ofInt_of_le (by omega) (by omega)
  have hlt : ¬ opened.size ≤ (opened.aged (.ofInt (slotsOf (issue :: later)))).elapsed :=
    of_decide_eq_false hinert
  rw [elapsed_eq hr hcurrent, Int64.le_iff_toInt_le, hexact] at hlt
  omega

/-- A commit with enough padding keeps the windows true to the history. -/
theorem commit (hr : r.Sound) (h : r.Remembers history windows) {issue : Issue} {owed : Int64}
    (hpeek : Monitor.peek ⟨r, windows⟩ issue.inst = .ok owed) (hle : owed ≤ issue.padding)
    {m' : Monitor} (hcommit : Monitor.commit ⟨r, windows⟩ issue.inst issue.padding = .ok m') :
    r.Remembers (issue :: history) m'.windows := by
  obtain ⟨new, hopening, rfl⟩ := Monitor.commit_eq_ok hpeek hle hcommit
  have hpadding : 0 ≤ issue.padding := Int64.le_trans (Monitor.peek_nonneg hpeek) hle
  have hdistinct := h.distinct.survivors r issue.inst issue.padding
  refine ⟨?_, ?_, hdistinct.adopt new, ?_, ?_⟩
  · intro k hk
    rcases List.mem_cons.mp hk with rfl | hk
    · exact hpadding
    · exact h.padding_nonneg k hk
  · intro k hk
    rcases List.mem_cons.mp hk with rfl | hk
    · exact ⟨new, hopening⟩
    · exact h.opening k hk
  · intro w hw
    -- An open window is the one just opened, or survived and was not reopened.
    rcases hdistinct.of_mem_adopt hw with rfl | ⟨hw, hother⟩
    · refine ⟨[], w, .opening hopening, ?_, ?_⟩
      · exact (w.aged_zero).symm
      · intro _
        obtain ⟨_, _, size, _, hzero, rfl⟩ := hr.opening_eq_some_iff.mp hopening
        have hnonneg := Word.toInt_nonneg.mp (hr.size_range (hr.admits_opened hopening)).1
        have hne : size.toInt ≠ 0 := fun heq => hzero (Int64.toInt.inj heq)
        simp only [Window.opened, slotsOf_nil] at hnonneg ⊢
        omega
    · obtain ⟨old, hold, hsurvivor⟩ := List.mem_filterMap.mp hw
      obtain ⟨rfl, hinert⟩ := survivor_eq_some hsurvivor
      obtain ⟨later, opened, hcurrent, rfl, hage⟩ := h.origin old hold
      rw [aged_issue] at hinert hother ⊢
      refine ⟨issue :: later, opened, hcurrent.cons ?_, rfl, ?_⟩
      · rintro ⟨other, hopens, hsame⟩
        rw [hopening, Except.ok.injEq] at hopens
        rw [hopens] at hother
        have hdiffer := hother other rfl
        rw [Window.aged_regs, hsame] at hdiffer
        contradiction
      · exact h.lt_size_of_survivor hr hcurrent hage hpadding hinert
  · intro later opened hcurrent
    rcases hcurrent.of_cons with ⟨rfl, hopens⟩ | ⟨later', rfl, hbefore, hkept⟩
    · rw [hopening, Except.ok.injEq] at hopens
      subst hopens
      left
      rw [slotsOf_nil]
      exact (opened.aged_zero).symm ▸ opened.mem_place_self _
    · have hissue := Issue.slots_pos hpadding
      rcases h.complete later' opened hbefore with hw | hdone
      · obtain ⟨need, hcheck, hlack⟩ := Monitor.lack_le_of_peek hpeek hle hw
        cases hsurvivor : r.survivor issue.inst issue.padding
            (opened.aged (.ofInt (slotsOf later'))) with
        | none => exact Or.inr (h.size_le_of_dropped hr hbefore hpadding hcheck hlack hsurvivor)
        | some next =>
            left
            obtain ⟨rfl, _⟩ := survivor_eq_some hsurvivor
            have hmem := List.mem_filterMap.mpr ⟨_, hw, hsurvivor⟩
            rw [aged_issue] at hmem
            refine Window.mem_adopt_of_mem hmem ?_
            intro other hother
            rw [Window.aged_regs, Bool.eq_false_iff]
            intro hsame
            exact hkept ⟨other, by rw [hopening, hother], hsame⟩
      · right
        rw [slotsOf_cons]
        omega

end Remembers

end Rule

end Interlock
