import Interlock.Proofs.Monitor.Rejection

/-! # Closing windows early

A rule may close a window on the first conflict with it. If every conflict asks for the whole
window, that is an optimisation only: padding that covers the conflict takes the window past its
size, and so it would be dropped as inert by the same commit. The monitor of such a rule answers
alike under both policies. The judgement may look at the age of a window or fail; what matters is
that ages stay exact.
-/

namespace Interlock

/-- Padding that covers a conflict over the whole window leaves nothing of it. -/
theorem Window.inert_of_covered {w : Window} {inst : Instruction} {padding : Int64}
    (helapsed : 0 ≤ w.elapsed) (hpadding : 0 ≤ padding)
    (hfits : w.elapsed.toInt + padding.toInt + inst.waitStates.toInt < 2 ^ 63)
    (hcovered : w.remaining w.size ≤ padding) :
    (w.aged (padding + inst.waitStates)).inert = true := by
  have hone := inst.one_le_waitStates
  have hage := Word.toInt_nonneg.mp helapsed
  have hadded := Word.toInt_nonneg.mp hpadding
  have hslots : (padding + inst.waitStates).toInt = padding.toInt + inst.waitStates.toInt :=
    Word.toInt_add (by omega) (by omega)
  have hsum : (w.elapsed + (padding + inst.waitStates)).toInt =
      w.elapsed.toInt + (padding + inst.waitStates).toInt :=
    Word.toInt_add (by omega) (by omega)
  have hsize : w.size.toInt ≤ w.elapsed.toInt + padding.toInt := by
    by_cases hnonneg : 0 ≤ w.size
    · rw [Int64.le_iff_toInt_le, toInt_remaining helapsed hnonneg] at hcovered
      omega
    · rw [Word.toInt_nonneg] at hnonneg
      omega
  refine decide_eq_true ?_
  rw [Int64.le_iff_toInt_le, aged_size, aged_elapsed, hsum, hslots]
  omega

namespace Rule

/-- The same rule under another policy. -/
def withPolicy (r : Rule) (policy : WindowPolicy) : Rule :=
  { r with policy }

/-- Every conflict with a window of the rule asks for all of it. -/
def AsksForAll (r : Rule) : Prop :=
  ∀ w inst n, r.Admits w → r.judge w inst = .ok (some n) → n = w.size

variable {r : Rule} {inst : Instruction} {padding : Int64} {w : Window}

theorem withPolicy_self (r : Rule) : r.withPolicy r.policy = r := rfl

theorem owedAfter_withPolicy (policy : WindowPolicy) (windows : List Window) :
    (r.withPolicy policy).owedAfter inst padding windows = r.owedAfter inst padding windows := by
  induction windows generalizing padding with
  | nil => rfl
  | cons w rest ih =>
      have howed : (r.withPolicy policy).owedTo inst w = r.owedTo inst w := rfl
      rw [owedAfter, owedAfter, howed]
      cases r.owedTo inst w with
      | error e => rfl
      | ok owed => exact ih

/-- The policy makes no difference to a window whose conflicts ask for all of it. -/
theorem settle_withPolicy (hwhole : ∀ n, r.check w inst = .ok (some n) → n = w.size)
    (helapsed : 0 ≤ w.elapsed) (hpadding : 0 ≤ padding)
    (hfits : w.elapsed.toInt + padding.toInt + inst.waitStates.toInt < 2 ^ 63)
    (policy : WindowPolicy) :
    (r.withPolicy policy).settle inst padding w = r.settle inst padding w := by
  have hcheck : (r.withPolicy policy).check w inst = r.check w inst := rfl
  unfold settle
  rw [hcheck]
  cases hneed : r.check w inst with
  | error e => rfl
  | ok need =>
      cases need with
      | none => rfl
      | some n =>
          by_cases hless : padding < w.remaining n
          · simp only [hless, Option.isSome_some, and_self, if_true]
            rfl
          · have hcovered : w.remaining w.size ≤ padding := by
              rw [← hwhole n hneed]
              exact Int64.not_lt.mp hless
            have hinert := Window.inert_of_covered helapsed hpadding hfits hcovered
            simp [hless, hinert]

theorem judge_of_check_eq_some {n : Int64} (h : r.check w inst = .ok (some n)) :
    r.judge w inst = .ok (some n) := by
  unfold check at h
  split at h
  next => cases h
  next => cases h
  next => cases h
  next nops hjudge =>
    split at h
    next => cases h
    next =>
      split at h
      next => cases h
      next =>
        rw [Except.ok.injEq] at h
        rw [hjudge, h]

theorem AsksForAll.check (hr : r.AsksForAll) (hw : r.Admits w) {n : Int64}
    (h : r.check w inst = .ok (some n)) : n = w.size :=
  hr w inst n hw (judge_of_check_eq_some h)

/-- A window is opened at age zero with the size of its class. -/
theorem admits_of_opening (h : r.opening inst = .ok (some w)) : r.Admits w ∧ w.elapsed = 0 := by
  unfold opening at h
  split at h
  next => cases h
  next =>
    split at h
    next =>
      cases hsize : r.sizeFor inst with
      | error e => simp [hsize] at h
      | ok size =>
          simp only [hsize] at h
          split at h
          next => cases h
          next =>
            split at h
            next => cases h
            next =>
              rw [Except.ok.injEq, Option.some.injEq] at h
              subst h
              exact ⟨Sound.lookup_of_sizeFor hsize, rfl⟩
    next => cases h

end Rule

/-! ## Commits under both policies -/

/-- A monitor whose windows have the sizes of their classes and ages that more padding fits on. -/
structure Monitor.Measured (m : Monitor) : Prop where
  admits : ∀ w ∈ m.windows, m.rule.Admits w
  nonneg : ∀ w ∈ m.windows, 0 ≤ w.elapsed
  le : ∀ w ∈ m.windows, w.elapsed.toInt ≤ 2 ^ 61

theorem Monitor.Measured.fresh (rule : Rule) : Measured { rule } :=
  ⟨fun _ hw => absurd hw List.not_mem_nil, fun _ hw => absurd hw List.not_mem_nil,
    fun _ hw => absurd hw List.not_mem_nil⟩

theorem Monitor.Measured.settled {m : Monitor} (hm : m.Measured)
    (hmax : m.rule.sizes.max.toInt ≤ 2 ^ 61) {inst : Instruction} {padding : Int64}
    (hpadding : 0 ≤ padding)
    (hslots : padding.toInt + inst.waitStates.toInt ≤ 2 ^ 62) :
    (m.settled inst padding).Measured := by
  have hwindow : ∀ w ∈ (m.settled inst padding).windows,
      m.rule.Admits w ∧ 0 ≤ w.elapsed ∧ w.elapsed.toInt ≤ 2 ^ 61 := by
    intro w hw
    rcases of_mem_settled hw with hopening | ⟨old, hold, rfl, hopen⟩
    · obtain ⟨hadmits, hzero⟩ := Rule.admits_of_opening hopening
      rw [hzero]
      exact ⟨hadmits, Int64.le_refl 0, by decide⟩
    · have hadmits := (hm.admits old hold).aged (padding + inst.waitStates)
      have hage := Word.toInt_nonneg.mp (hm.nonneg old hold)
      have hold := hm.le old hold
      have hroom : padding.toInt + inst.waitStates.toInt + 20 < 2 ^ 63 := by omega
      obtain ⟨hlow, hsum⟩ := Instruction.toInt_slots hpadding hroom
      rw [Word.toInt_nonneg] at hlow
      have hexact : (old.elapsed + (padding + inst.waitStates)).toInt =
          old.elapsed.toInt + (padding + inst.waitStates).toInt :=
        Word.toInt_add (by omega) (by omega)
      have hlt := Int64.lt_of_lt_of_le (Int64.not_le.mp (of_decide_eq_false hopen))
        (LatencyTable.le_max_of_lookup hadmits)
      rw [Int64.lt_iff_toInt_lt] at hlt
      refine ⟨hadmits, ?_, by omega⟩
      rw [Word.toInt_nonneg, Window.aged_elapsed, hexact]
      omega
  exact ⟨fun w hw => (hwindow w hw).1, fun w hw => (hwindow w hw).2.1,
    fun w hw => (hwindow w hw).2.2⟩

namespace Residue

/-- The same windows under another policy. -/
def withPolicy (r : Residue) (policy : WindowPolicy) : Residue :=
  { r with rule := r.rule.withPolicy policy }

variable {r : Residue} {inst : Instruction} {padding : Int64}

@[simp] theorem windows_withPolicy (r : Residue) (policy : WindowPolicy) :
    (r.withPolicy policy).windows = r.windows := rfl

theorem peek_withPolicy (r : Residue) (policy : WindowPolicy) (inst : Instruction) :
    (r.withPolicy policy).peek inst = r.peek inst :=
  Rule.owedAfter_withPolicy policy r.windows

theorem settlePlaces_congr {rule rule' : Rule} {pool : Array Window} {places : List Nat}
    (hnodup : places.Nodup)
    (hsame : ∀ w ∈ places.filterMap (pool[·]?),
      rule'.settle inst padding w = rule.settle inst padding w) :
    settlePlaces rule' inst padding pool places = settlePlaces rule inst padding pool places := by
  induction places generalizing pool with
  | nil => rfl
  | cons place rest ih =>
      obtain ⟨hfresh, hnodup⟩ := List.nodup_cons.mp hnodup
      unfold settlePlaces
      cases hw : pool[place]? with
      | none =>
          rw [List.filterMap_cons_none hw] at hsame
          exact ih hnodup hsame
      | some w =>
          rw [List.filterMap_cons_some hw] at hsame
          simp only [hsame w List.mem_cons_self]
          cases rule.settle inst padding w with
          | error e => rfl
          | ok result =>
              have hrest := filterMap_setIfInBounds hfresh pool result.1
              simp only
              rw [ih hnodup]
              rw [hrest]
              exact fun v hv => hsame v (List.mem_cons_of_mem w hv)

/-- A commit under another policy does the same. -/
theorem Tidy.commit_withPolicy (h : r.Tidy) (hr : r.rule.AsksForAll) (hm : r.toMonitor.Measured)
    (hpadding : 0 ≤ padding) (hslots : padding.toInt + inst.waitStates.toInt ≤ 2 ^ 62)
    (policy : WindowPolicy) :
    (r.withPolicy policy).commit inst padding =
      ((r.commit inst padding).1, (r.commit inst padding).2.withPolicy policy) := by
  have hsame : ∀ w ∈ r.windows,
      (r.rule.withPolicy policy).settle inst padding w = r.rule.settle inst padding w := by
    intro w hw
    have hage := hm.le w hw
    exact Rule.settle_withPolicy (fun n hn => hr.check (hm.admits w hw) hn) (hm.nonneg w hw)
      hpadding (by omega) policy
  have hplaces := settlePlaces_congr h.nodup hsame
  have hopening : (r.rule.withPolicy policy).opening inst = r.rule.opening inst := rfl
  simp only [Residue.commit, withPolicy, hplaces, hopening]
  split
  next => rfl
  next =>
    cases r.rule.opening inst with
    | error e => rfl
    | ok opened => cases opened <;> rfl

theorem Tidy.measured_of_commit (h : r.Tidy) (hm : r.toMonitor.Measured)
    (hmax : r.rule.sizes.max.toInt ≤ 2 ^ 61) (hpadding : 0 ≤ padding)
    (hslots : padding.toInt + inst.waitStates.toInt ≤ 2 ^ 62) {left : Residue}
    (hcommit : r.commit inst padding = (.ok (), left)) :
    left.Tidy ∧ left.toMonitor.Measured ∧ left.rule = r.rule := by
  rcases h.commit_cases inst padding with ⟨_, left', hleft, htidy, hmonitor⟩ |
    ⟨_, _, _, e, _, _, _, _, herror, _⟩
  · rw [hcommit, Prod.mk.injEq] at hleft
    rw [← hleft.2] at htidy hmonitor
    refine ⟨htidy, ?_, congrArg Monitor.rule hmonitor⟩
    rw [hmonitor]
    exact hm.settled hmax hpadding hslots
  · rw [hcommit, Prod.mk.injEq] at herror
    cases herror.1

end Residue

/-! ## Sequences of calls -/

/-- A call to a monitor. -/
inductive Call where
  | peek (inst : Instruction)
  | observe (inst : Instruction) (padding : Int64)

namespace Call

/-- What is committed counts few enough wait states, and no padding is negative. -/
def Modest : Call → Prop
  | .peek _ => True
  | .observe inst padding =>
    (inst.op = .nop → inst.count.toInt ≤ 2 ^ 61) ∧ 0 ≤ padding ∧ padding.toInt ≤ 2 ^ 61

instance (call : Call) : Decidable call.Modest :=
  match call with
  | .peek _ => inferInstanceAs (Decidable True)
  | .observe _ _ => inferInstanceAs (Decidable (_ ∧ _))

theorem Modest.slots_le {inst : Instruction} {padding : Int64}
    (h : (Call.observe inst padding).Modest) :
    padding.toInt + inst.waitStates.toInt ≤ 2 ^ 62 := by
  obtain ⟨hcount, _, hpadding⟩ := h
  have hwait := Instruction.waitStates_le_of_count (by norm_num) hcount
  omega

end Call

namespace Residue

/-- The answer to a call, the padding if it was asked for, and what the call leaves behind. -/
def answer (r : Residue) : Call → Except RuleError (Option Int64) × Residue
  | .peek inst => ((r.peek inst).map some, r)
  | .observe inst padding =>
    ((r.commit inst padding).1.map fun _ => none, (r.commit inst padding).2)

/-- The answers to a sequence of calls with the windows after each of them, up to the first
error. -/
def transcript (r : Residue) : List Call → List (Except RuleError (Option Int64) × List Window)
  | [] => []
  | call :: rest =>
    let (result, left) := r.answer call
    (result, left.windows) :: match result with
      | .error _ => []
      | .ok _ => left.transcript rest

theorem Tidy.answer_withPolicy {r : Residue} (h : r.Tidy) (hr : r.rule.AsksForAll)
    (hm : r.toMonitor.Measured) {call : Call} (hcall : call.Modest) (policy : WindowPolicy) :
    (r.withPolicy policy).answer call =
      ((r.answer call).1, (r.answer call).2.withPolicy policy) := by
  cases call with
  | peek inst => rw [answer, answer, peek_withPolicy]
  | observe inst padding =>
      simp only [answer, h.commit_withPolicy hr hm hcall.2.1 hcall.slots_le policy]

theorem Tidy.measured_of_answer {r : Residue} (h : r.Tidy) (hm : r.toMonitor.Measured)
    (hmax : r.rule.sizes.max.toInt ≤ 2 ^ 61) {call : Call} (hcall : call.Modest)
    {result : Option Int64} {left : Residue} (hanswer : r.answer call = (.ok result, left)) :
    left.Tidy ∧ left.toMonitor.Measured ∧ left.rule = r.rule := by
  cases call with
  | peek inst =>
      rw [answer, Prod.mk.injEq] at hanswer
      rw [← hanswer.2]
      exact ⟨h, hm, rfl⟩
  | observe inst padding =>
      rw [answer, Prod.mk.injEq] at hanswer
      have hcommit : r.commit inst padding = (.ok (), left) := by
        refine Prod.ext ?_ hanswer.2
        cases hresult : (r.commit inst padding).1 with
        | error e => simp [hresult, Except.map] at hanswer
        | ok => rfl
      exact h.measured_of_commit hm hmax hcall.2.1 hcall.slots_le hcommit

/-- Whatever it is asked, a monitor answers alike under both policies. -/
theorem Tidy.transcript_withPolicy {r : Residue} (h : r.Tidy) (hr : r.rule.AsksForAll)
    (hm : r.toMonitor.Measured) (hmax : r.rule.sizes.max.toInt ≤ 2 ^ 61) {calls : List Call}
    (hcalls : ∀ call ∈ calls, call.Modest) (policy : WindowPolicy) :
    (r.withPolicy policy).transcript calls = r.transcript calls := by
  induction calls generalizing r with
  | nil => rfl
  | cons call rest ih =>
      obtain ⟨hcall, hrest⟩ := List.forall_mem_cons.mp hcalls
      rw [transcript, transcript, h.answer_withPolicy hr hm hcall policy]
      cases hanswer : r.answer call with
      | mk result left =>
          cases result with
          | error e => rfl
          | ok result =>
              obtain ⟨htidy, hmeasured, hrule⟩ := h.measured_of_answer hm hmax hcall hanswer
              have hlater := ih htidy (hrule ▸ hr) hmeasured (hrule ▸ hmax) hrest
              simp only [windows_withPolicy, hlater]

end Residue

end Interlock
