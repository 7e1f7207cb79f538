import Interlock.Proofs.Monitor.History

/-! # What a monitor asks for, and why

Padding that covers what a monitor asks for meets every requirement of its history, also those of
windows that were replaced by one of a longer class. Conversely, unless counts are excessive, what
it asks for is exactly what some current window lacks.
-/

namespace Interlock.Rule

variable {r : Rule} {history : List Issue} {windows : List Window}

/-- Windows of a sound rule can be asked about any instruction. -/
theorem Sound.exists_peek (hr : r.Sound) (hwindows : ∀ w ∈ windows, r.Admits w)
    (inst : Instruction) : ∃ owed, Monitor.peek ⟨r, windows⟩ inst = .ok owed := by
  apply exists_owedAfter
  intro w hw
  obtain ⟨need, hcheck, _⟩ := hr.check_eq (hwindows w hw) inst
  exact ⟨_, owedTo_of_check hcheck⟩

namespace Remembers

/-- Enough padding separates an instruction from the trigger of every current window as needed. -/
theorem need_le (hr : r.Sound) (h : r.Remembers history windows) {later : List Issue}
    {opened : Window} (hcurrent : r.Current history later opened) {inst : Instruction}
    {owed padding : Int64} (hpeek : Monitor.peek ⟨r, windows⟩ inst = .ok owed)
    (hle : owed ≤ padding) {n : Int64} (hcheck : r.check opened inst = .ok (some n)) :
    n.toInt ≤ slotsOf later + padding.toInt := by
  have hadmits := hcurrent.admits hr
  have hrange := hr.check_range hadmits hcheck
  have hpadding : 0 ≤ padding := Int64.le_trans (Monitor.peek_nonneg hpeek) hle
  have hlater := h.slotsOf_later_nonneg hcurrent
  rcases h.complete later opened hcurrent with hopen | hdone
  -- The window is still open and was asked, or its size has passed already.
  · obtain ⟨need, hneed, hlack⟩ := Monitor.lack_le_of_peek hpeek hle hopen
    rw [hr.check_aged hadmits, hcheck, Except.ok.injEq] at hneed
    subst hneed
    exact Window.need_le_of_remaining_le hlater (elapsed_eq hr hcurrent _) hrange.1 hpadding hlack
  · have hsize := Int64.le_iff_toInt_le.mp hrange.2
    have hnonneg := Word.toInt_nonneg.mp hpadding
    omega

/-- Either nothing reopened a window, or there was a last issue that did. -/
theorem last_reopening (r : Rule) (opened : Window) (later : List Issue) :
    (∀ issue ∈ later, ¬ r.Reopens issue.inst opened) ∨
      ∃ recent issue before, later = recent ++ issue :: before ∧ r.Reopens issue.inst opened ∧
        ∀ k ∈ recent, ¬ r.Reopens k.inst opened := by
  induction later with
  | nil => exact Or.inl (by simp)
  | cons issue rest ih =>
      by_cases hreopens : r.Reopens issue.inst opened
      · exact Or.inr ⟨[], issue, rest, rfl, hreopens, by simp⟩
      · rcases ih with hnone | ⟨recent, k, before, rfl, hk, hrecent⟩
        · left
          intro k hk
          rcases List.mem_cons.mp hk with rfl | hk
          · exact hreopens
          · exact hnone k hk
        · refine Or.inr ⟨issue :: recent, k, before, rfl, hk, ?_⟩
          intro i hi
          rcases List.mem_cons.mp hi with rfl | hi
          · exact hreopens
          · exact hrecent i hi

/-- Enough padding separates an instruction from every trigger as needed, provided that triggers
over the same registers in between were no shorter. -/
theorem need_le_of_longer (hr : r.Sound) (h : r.Remembers history windows)
    {later earlier : List Issue} {issue : Issue} {opened : Window}
    (hsplit : history = later ++ issue :: earlier)
    (hopening : r.opening issue.inst = .ok (some opened))
    (hlonger : ∀ k ∈ later, r.Reopens k.inst opened → issue.inst.passes ≤ k.inst.passes)
    {inst : Instruction} {owed padding : Int64}
    (hpeek : Monitor.peek ⟨r, windows⟩ inst = .ok owed) (hle : owed ≤ padding) {n : Int64}
    (hcheck : r.check opened inst = .ok (some n)) : n.toInt ≤ slotsOf later + padding.toInt := by
  rcases last_reopening r opened later with hnone | ⟨recent, k, before, rfl, hk, hrecent⟩
  · exact h.need_le hr ⟨⟨issue, earlier, hsplit, hopening⟩, hnone⟩ hpeek hle hcheck
  · obtain ⟨new, hnew, hsame⟩ := hk
    have hclass := hlonger k (by simp) ⟨new, hnew, hsame⟩
    -- The last window over these registers is the one that stands for all before it.
    have hcurrent : r.Current history recent new := by
      refine ⟨⟨k, before ++ issue :: earlier, by simp [hsplit], hnew⟩, ?_⟩
      rintro i hi ⟨other, hother, hothersame⟩
      exact hrecent i hi ⟨other, hother, Window.sameRanges_trans hothersame hsame⟩
    obtain ⟨_, _, _, _, _, rfl⟩ := hr.opening_eq_some_iff.mp hnew
    obtain ⟨_, _, _, _, _, rfl⟩ := hr.opening_eq_some_iff.mp hopening
    rw [Window.sameRanges_comm] at hsame
    obtain ⟨n', hcheck', hlt⟩ := hr.check_mono (hr.admits_opened hopening) (hr.admits_opened hnew)
      hsame hclass hcheck
    have hneed := h.need_le hr hcurrent hpeek hle hcheck'
    have hbefore : 0 ≤ slotsOf (k :: before) := slotsOf_nonneg fun i hi =>
      h.padding_nonneg i (by rw [hsplit]; simp only [List.mem_append]; exact Or.inl (Or.inr hi))
    rw [Int64.le_iff_toInt_le] at hlt
    rw [slotsOf_append]
    omega

/-- Unless counts are excessive, every open window still has wait states to go. -/
theorem young (hr : r.Sound) (h : r.Remembers history windows)
    (hmodest : ∀ issue ∈ history, issue.Modest) {w : Window} (hw : w ∈ windows) :
    0 ≤ w.elapsed ∧ w.elapsed < w.size := by
  obtain ⟨later, opened, hcurrent, rfl, hage⟩ := h.origin w hw
  have hyoung := hage fun k hk => hmodest k (hcurrent.later_subset k hk)
  have hlater := h.slotsOf_later_nonneg hcurrent
  have hword := opened.size.toInt_lt
  rw [Word.toInt_nonneg, Int64.lt_iff_toInt_lt, elapsed_eq hr hcurrent,
    Int64.toInt_ofInt_of_le (by omega) (by omega)]
  exact ⟨hlater, hyoung⟩

/-- Unless counts are excessive, positive padding is exactly what some current window lacks. -/
theorem exists_need_of_owed (hr : r.Sound) (h : r.Remembers history windows)
    (hmodest : ∀ issue ∈ history, issue.Modest) {inst : Instruction} {owed : Int64}
    (hpeek : Monitor.peek ⟨r, windows⟩ inst = .ok owed) (hpos : 0 < owed) :
    ∃ later opened n, r.Current history later opened ∧ r.check opened inst = .ok (some n) ∧
      n.toInt = slotsOf later + owed.toInt := by
  rcases (owedAfter_spec hpeek).2.2 with hzero | ⟨w, hw, howed⟩
  · rw [hzero] at hpos
    exact absurd hpos Int64.lt_irrefl
  · have hyoung := h.young hr hmodest hw
    obtain ⟨later, opened, hcurrent, rfl, hage⟩ := h.origin w hw
    have hadmits := hcurrent.admits hr
    have hlater := h.slotsOf_later_nonneg hcurrent
    have hlt := hage fun k hk => hmodest k (hcurrent.later_subset k hk)
    obtain ⟨need, hcheck, _, hrange⟩ := hr.check_eq hadmits inst
    rw [owedTo_of_check (by rwa [hr.check_aged hadmits]), Except.ok.injEq] at howed
    subst howed
    cases need with
    | none => exact absurd hpos Int64.lt_irrefl
    | some n =>
        refine ⟨later, opened, n, hcurrent, hcheck, ?_⟩
        have hexact := Window.toInt_remaining hyoung.1 (hrange n rfl).1
        have hword := opened.size.toInt_lt
        rw [elapsed_eq hr hcurrent, Int64.toInt_ofInt_of_le (by omega) (by omega)] at hexact
        rw [Int64.lt_iff_toInt_lt, Int64.toInt_zero] at hpos
        simp only [lack] at hpos ⊢
        omega

/-- Unless counts are excessive, a monitor never asks for more than the longest window. -/
theorem peek_le (hr : r.Sound) (h : r.Remembers history windows)
    (hmodest : ∀ issue ∈ history, issue.Modest) {inst : Instruction} {owed : Int64}
    (hpeek : Monitor.peek ⟨r, windows⟩ inst = .ok owed) : owed ≤ 20 := by
  by_cases hpos : 0 < owed
  · obtain ⟨later, opened, n, hcurrent, hcheck, hn⟩ := h.exists_need_of_owed hr hmodest hpeek hpos
    have hadmits := hcurrent.admits hr
    have hlater := h.slotsOf_later_nonneg hcurrent
    have hle := Int64.le_trans (hr.check_range hadmits hcheck).2 (hr.size_range hadmits).2
    rw [Int64.le_iff_toInt_le] at hle ⊢
    omega
  · exact Int64.le_trans (Int64.not_lt.mp hpos) (by decide)

end Remembers

end Interlock.Rule
