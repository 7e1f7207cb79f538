import Interlock.Proofs.Rule.Sound
import Interlock.Proofs.Window

/-! # What a commit does to the windows of a monitor

The padding that a monitor asks for is the largest that any window lacks. A commit ages every window
by the same number of wait states and keeps those that may still require something; after that it
puts a new window in the place of the one over the same registers. These equations are all that
later modules use of the two functions.
-/

namespace Interlock

namespace Rule

variable {r : Rule} {inst : Instruction} {padding : Int64}

/-! ## Asking for padding -/

/-- The padding asked for is the largest that a window lacks, or the one to begin with. -/
theorem owedAfter_spec {windows : List Window} {owed : Int64}
    (h : r.owedAfter inst padding windows = .ok owed) :
    padding ≤ owed ∧ (∀ w ∈ windows, ∃ lack, r.owedTo inst w = .ok lack ∧ lack ≤ owed) ∧
      (owed = padding ∨ ∃ w ∈ windows, r.owedTo inst w = .ok owed) := by
  induction windows generalizing padding with
  | nil =>
      rw [owedAfter, Except.ok.injEq] at h
      subst h
      exact ⟨Int64.le_refl _, by simp, Or.inl rfl⟩
  | cons w rest ih =>
      unfold owedAfter at h
      cases hlack : r.owedTo inst w with
      | error e => simp [hlack] at h
      | ok lack =>
          simp only [hlack] at h
          obtain ⟨hle, hall, hsome⟩ := ih h
          have hpadding : padding ≤ owed := by grind
          have hlackle : lack ≤ owed := by grind
          refine ⟨hpadding, ?_, ?_⟩
          · intro v hv
            rcases List.mem_cons.mp hv with rfl | hv
            · exact ⟨lack, hlack, hlackle⟩
            · exact hall v hv
          · rcases hsome with heq | ⟨v, hv, heq⟩
            · split at heq
              · exact Or.inr ⟨w, List.mem_cons_self, by rw [hlack, heq]⟩
              · exact Or.inl heq
            · exact Or.inr ⟨v, List.mem_cons_of_mem w hv, heq⟩

theorem exists_owedAfter {windows : List Window}
    (h : ∀ w ∈ windows, ∃ lack, r.owedTo inst w = .ok lack) (padding : Int64) :
    ∃ owed, r.owedAfter inst padding windows = .ok owed := by
  induction windows generalizing padding with
  | nil => exact ⟨padding, rfl⟩
  | cons w rest ih =>
      obtain ⟨lack, hlack⟩ := h w List.mem_cons_self
      obtain ⟨owed, howed⟩ := ih (fun v hv => h v (List.mem_cons_of_mem w hv))
        (if padding < lack then lack else padding)
      exact ⟨owed, by simp only [owedAfter, hlack, howed]⟩

/-- Windows that lack no more than the padding to begin with leave it as it is. -/
theorem owedAfter_eq_of_le {windows : List Window}
    (h : ∀ w ∈ windows, ∃ lack, r.owedTo inst w = .ok lack ∧ lack ≤ padding) :
    r.owedAfter inst padding windows = .ok padding := by
  induction windows with
  | nil => rfl
  | cons w rest ih =>
      obtain ⟨lack, hlack, hle⟩ := h w List.mem_cons_self
      simp only [owedAfter, hlack, Int64.not_lt.mpr hle, if_false]
      exact ih fun v hv => h v (List.mem_cons_of_mem w hv)

/-- The padding that a verdict still asks for on a window. -/
def lack (need : Option Int64) (w : Window) : Int64 :=
  match need with
  | some nops => w.remaining nops
  | none => 0

theorem owedTo_of_check {w : Window} {need : Option Int64} (h : r.check w inst = .ok need) :
    r.owedTo inst w = .ok (lack need w) := by
  unfold owedTo
  rw [h]
  cases need <;> rfl

/-! ## Ageing the windows -/

/-- What is left of a window after a commit. -/
def survivor (r : Rule) (inst : Instruction) (padding : Int64) (w : Window) : Option Window :=
  match r.settle inst padding w with
  | .ok (w, true) => some w
  | _ => none

theorem settleAll_eq_ok {windows : List Window}
    (h : ∀ w ∈ windows, ∃ next, r.settle inst padding w = .ok next) :
    r.settleAll inst padding windows = .ok (windows.filterMap (r.survivor inst padding)) := by
  induction windows with
  | nil => rfl
  | cons w rest ih =>
      obtain ⟨⟨next, stays⟩, hnext⟩ := h w List.mem_cons_self
      have hrest := ih fun v hv => h v (List.mem_cons_of_mem w hv)
      simp only [settleAll, hnext, hrest]
      cases stays <;> simp [survivor, hnext]

/-- What becomes of a window whose conflict is covered by the padding. -/
theorem settle_of_check {w : Window} {need : Option Int64} (hcheck : r.check w inst = .ok need)
    (hcovered : need = none ∨ lack need w ≤ padding) :
    r.settle inst padding w = .ok (w.aged (padding + inst.waitStates),
      !(need.isSome && r.policy == .closeOnHazard) &&
        !(w.aged (padding + inst.waitStates)).inert) := by
  unfold settle
  rw [hcheck]
  cases need with
  | none => simp
  | some nops =>
      have hle : w.remaining nops ≤ padding := hcovered.resolve_left (by simp)
      simp [Int64.not_lt.mpr hle]

/-- A window whose conflict is covered stays open, aged, unless the conflict closes it or it is
inert. -/
theorem survivor_of_check {w : Window} {need : Option Int64} (hcheck : r.check w inst = .ok need)
    (hcovered : need = none ∨ lack need w ≤ padding) :
    r.survivor inst padding w =
      if (need.isSome && r.policy == .closeOnHazard) || (w.aged (padding + inst.waitStates)).inert
      then none else some (w.aged (padding + inst.waitStates)) := by
  unfold survivor
  rw [settle_of_check hcheck hcovered]
  cases need.isSome && r.policy == .closeOnHazard <;>
    cases (w.aged (padding + inst.waitStates)).inert <;> rfl

/-- A window that was settled has a verdict, and the padding covers what it asks for. -/
theorem check_of_settle {w : Window} {next : Window × Bool}
    (h : r.settle inst padding w = .ok next) :
    ∃ need, r.check w inst = .ok need ∧ (need = none ∨ lack need w ≤ padding) := by
  unfold settle at h
  cases hcheck : r.check w inst with
  | error e => simp [hcheck] at h
  | ok need =>
      refine ⟨need, rfl, ?_⟩
      cases need with
      | none => exact Or.inl rfl
      | some nops =>
          right
          simp only [hcheck, Option.isSome_some, true_and] at h
          split at h
          next => cases h
          next hle => exact Int64.not_lt.mp hle

/-- A settled window has aged, whether it stays open or not. -/
theorem settle_eq_ok {w next : Window} {stays : Bool}
    (h : r.settle inst padding w = .ok (next, stays)) :
    next = w.aged (padding + inst.waitStates) := by
  obtain ⟨need, hcheck, hcovered⟩ := check_of_settle h
  rw [settle_of_check hcheck hcovered, Except.ok.injEq, Prod.mk.injEq] at h
  exact h.1.symm

/-- A window that stays open after a commit is the aged window, and it is not inert. -/
theorem survivor_eq_some {w next : Window} (h : r.survivor inst padding w = some next) :
    next = w.aged (padding + inst.waitStates) ∧ next.inert = false := by
  unfold survivor at h
  split at h
  next settled hsettle =>
    rw [Option.some.injEq] at h
    subst h
    obtain ⟨need, hcheck, hcovered⟩ := check_of_settle hsettle
    rw [settle_of_check hcheck hcovered, Except.ok.injEq, Prod.mk.injEq] at hsettle
    obtain ⟨rfl, hstays⟩ := hsettle
    rw [Bool.and_eq_true, Bool.not_eq_true', Bool.not_eq_true'] at hstays
    exact ⟨rfl, hstays.2⟩
  next => cases h

/-- A window goes because it is inert, or because its conflict closes it. -/
theorem survivor_eq_none {w : Window} {need : Option Int64} (hcheck : r.check w inst = .ok need)
    (hcovered : need = none ∨ lack need w ≤ padding) (h : r.survivor inst padding w = none) :
    (w.aged (padding + inst.waitStates)).inert = true ∨
      (need.isSome = true ∧ r.policy = .closeOnHazard) := by
  rw [survivor_of_check hcheck hcovered] at h
  split at h
  next hgone =>
    rw [Bool.or_eq_true] at hgone
    rcases hgone with hcloses | hinert
    · exact Or.inr (by simpa using hcloses)
    · exact Or.inl hinert
  next => cases h

end Rule

/-! ## Placing a new window -/

namespace Window

/-- No two windows track the same registers. -/
def Distinct (windows : List Window) : Prop :=
  windows.Pairwise fun w v => sameRanges w.regs v.regs = false

theorem mem_place_self (new : Window) (windows : List Window) : new ∈ new.place windows := by
  induction windows with
  | nil => simp [place]
  | cons old rest ih =>
      unfold place
      split
      · exact List.mem_cons_self
      · exact List.mem_cons_of_mem old ih

theorem mem_of_mem_place {new w : Window} {windows : List Window} (h : w ∈ new.place windows) :
    w = new ∨ w ∈ windows := by
  induction windows with
  | nil => simpa [place] using h
  | cons old rest ih =>
      unfold place at h
      split at h
      · exact (List.mem_cons.mp h).imp_right fun h => List.mem_cons_of_mem old h
      · rcases List.mem_cons.mp h with rfl | h
        · exact Or.inr List.mem_cons_self
        · exact (ih h).imp_right fun h => List.mem_cons_of_mem old h

/-- A window over other registers keeps its place. -/
theorem mem_place_of_mem {new w : Window} {windows : List Window} (h : w ∈ windows)
    (hother : sameRanges new.regs w.regs = false) : w ∈ new.place windows := by
  induction windows with
  | nil => simp at h
  | cons old rest ih =>
      unfold place
      split
      next htracks =>
        rcases List.mem_cons.mp h with rfl | h
        · rw [tracks, hother] at htracks
          contradiction
        · exact List.mem_cons_of_mem new h
      next =>
        rcases List.mem_cons.mp h with rfl | h
        · exact List.mem_cons_self
        · exact List.mem_cons_of_mem old (ih h)

/-- After a new window was placed, no other window tracks its registers. -/
theorem Distinct.other_of_mem_place {new w : Window} {windows : List Window}
    (hdistinct : Distinct windows) (h : w ∈ new.place windows) :
    w = new ∨ sameRanges new.regs w.regs = false := by
  induction windows with
  | nil => exact Or.inl (by simpa [place] using h)
  | cons old rest ih =>
      obtain ⟨hold, hrest⟩ := List.pairwise_cons.mp hdistinct
      unfold place at h
      split at h
      next htracks =>
        rcases List.mem_cons.mp h with rfl | h
        · exact Or.inl rfl
        · right
          -- The new window tracks what the replaced one did, which no other window does.
          rw [sameRanges_congr htracks w.regs]
          exact hold w h
      next htracks =>
        rcases List.mem_cons.mp h with rfl | h
        · exact Or.inr (Bool.eq_false_iff.mpr htracks)
        · exact ih hrest h

theorem Distinct.place {windows : List Window} (hdistinct : Distinct windows) (new : Window) :
    Distinct (new.place windows) := by
  induction windows with
  | nil => simp [Window.place, Distinct]
  | cons old rest ih =>
      obtain ⟨hold, hrest⟩ := List.pairwise_cons.mp hdistinct
      unfold Window.place
      split
      next htracks =>
        refine List.pairwise_cons.mpr ⟨?_, hrest⟩
        intro w hw
        rw [sameRanges_congr htracks w.regs]
        exact hold w hw
      next htracks =>
        refine List.pairwise_cons.mpr ⟨?_, ih hrest⟩
        intro w hw
        rcases mem_of_mem_place hw with rfl | hw
        · rw [sameRanges_comm]
          exact Bool.eq_false_iff.mpr htracks
        · exact hold w hw

/-- Adds the window that an instruction opens, if it opens one. -/
def adopt (opened : Option Window) (windows : List Window) : List Window :=
  match opened with
  | none => windows
  | some new => new.place windows

theorem mem_adopt_of_mem {opened : Option Window} {w : Window} {windows : List Window}
    (h : w ∈ windows) (hother : ∀ new ∈ opened, sameRanges new.regs w.regs = false) :
    w ∈ adopt opened windows := by
  cases opened with
  | none => exact h
  | some new => exact mem_place_of_mem h (hother new rfl)

theorem mem_of_mem_adopt {opened : Option Window} {w : Window} {windows : List Window}
    (h : w ∈ adopt opened windows) : opened = some w ∨ w ∈ windows := by
  cases opened with
  | none => exact Or.inr h
  | some new => exact (mem_of_mem_place h).imp_left fun heq => by rw [heq]

theorem Distinct.of_mem_adopt {opened : Option Window} {w : Window} {windows : List Window}
    (hdistinct : Distinct windows) (h : w ∈ adopt opened windows) :
    opened = some w ∨ (w ∈ windows ∧ ∀ new ∈ opened, sameRanges new.regs w.regs = false) := by
  cases opened with
  | none => exact Or.inr ⟨h, by simp⟩
  | some new =>
      rcases hdistinct.other_of_mem_place h with rfl | hother
      · exact Or.inl rfl
      · rcases mem_of_mem_place h with rfl | hmem
        · exact Or.inl rfl
        · refine Or.inr ⟨hmem, ?_⟩
          intro other hnew
          rw [Option.mem_some_iff] at hnew
          exact hnew ▸ hother

theorem Distinct.adopt {windows : List Window} (hdistinct : Distinct windows)
    (opened : Option Window) : Distinct (adopt opened windows) := by
  cases opened with
  | none => exact hdistinct
  | some new => exact hdistinct.place new

/-- Ageing windows and dropping some does not make two of them alike. -/
theorem Distinct.survivors {windows : List Window} (hdistinct : Distinct windows) (r : Rule)
    (inst : Instruction) (padding : Int64) :
    Distinct (windows.filterMap (r.survivor inst padding)) := by
  refine List.Pairwise.filterMap _ ?_ hdistinct
  intro w v hpair w' hw' v' hv'
  obtain ⟨rfl, _⟩ := Rule.survivor_eq_some hw'
  obtain ⟨rfl, _⟩ := Rule.survivor_eq_some hv'
  exact hpair

end Window

/-! ## A commit as a whole -/

namespace Monitor

variable {m m' : Monitor} {inst : Instruction} {padding : Int64}

theorem commit_rule (h : m.commit inst padding = .ok m') : m'.rule = m.rule := by
  unfold commit at h
  split at h
  next => cases h
  next kept _ =>
    split at h
    next => cases h
    next =>
      rw [Except.ok.injEq] at h
      rw [← h]
    next =>
      rw [Except.ok.injEq] at h
      rw [← h]

theorem peek_nonneg {owed : Int64} (h : m.peek inst = .ok owed) : 0 ≤ owed :=
  (Rule.owedAfter_spec h).1

/-- Padding that covers what the monitor asks for covers what each window lacks. -/
theorem lack_le_of_peek {owed : Int64} (hpeek : m.peek inst = .ok owed) (hle : owed ≤ padding)
    {w : Window} (hw : w ∈ m.windows) :
    ∃ need, m.rule.check w inst = .ok need ∧ Rule.lack need w ≤ padding := by
  obtain ⟨lack, hlack, hlackle⟩ := (Rule.owedAfter_spec hpeek).2.1 w hw
  cases hcheck : m.rule.check w inst with
  | error e => simp [Rule.owedTo, hcheck] at hlack
  | ok need =>
      rw [Rule.owedTo_of_check hcheck, Except.ok.injEq] at hlack
      exact ⟨need, rfl, Int64.le_trans (hlack ▸ hlackle) hle⟩

/-- With padding that covers what the monitor asks for, a commit can fail only because the
instruction cannot open its window. -/
theorem commit_of_peek {owed : Int64} (hpeek : m.peek inst = .ok owed) (hle : owed ≤ padding) :
    m.commit inst padding = match m.rule.opening inst with
      | .error e => .error e
      | .ok opened =>
        .ok ⟨m.rule, Window.adopt opened (m.windows.filterMap (m.rule.survivor inst padding))⟩ := by
  have hsettle : ∀ w ∈ m.windows, ∃ next, m.rule.settle inst padding w = .ok next := by
    intro w hw
    obtain ⟨need, hcheck, hlack⟩ := lack_le_of_peek hpeek hle hw
    exact ⟨_, Rule.settle_of_check hcheck (Or.inr hlack)⟩
  unfold commit
  rw [Rule.settleAll_eq_ok hsettle]
  cases m.rule.opening inst with
  | error e => rfl
  | ok opened => cases opened <;> rfl

theorem commit_eq_ok {owed : Int64} (hpeek : m.peek inst = .ok owed) (hle : owed ≤ padding)
    (h : m.commit inst padding = .ok m') :
    ∃ opened, m.rule.opening inst = .ok opened ∧
      m' = ⟨m.rule, Window.adopt opened (m.windows.filterMap (m.rule.survivor inst padding))⟩ := by
  rw [commit_of_peek hpeek hle] at h
  cases hopening : m.rule.opening inst with
  | error e => simp [hopening] at h
  | ok opened =>
      simp only [hopening, Except.ok.injEq] at h
      exact ⟨opened, rfl, h.symm⟩

end Monitor

end Interlock
