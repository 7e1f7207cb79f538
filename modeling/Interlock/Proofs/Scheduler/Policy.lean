import Interlock.Proofs.Monitor.Policy
import Interlock.Proofs.Scheduler.Idempotence
import Interlock.Proofs.Scheduler.Order

/-! # Policies and padded streams

The rules of the catalogue that close windows early ask for whole windows. So a scheduler that lets
some of them keep their windows goes through every stream alike: at each instruction it decides on
the same padding with the same comment, and its account is the same.
-/

namespace Interlock

/-- The rule, with windows that persist if it was chosen. -/
def Rule.relaxed (chosen : Rule → Bool) (r : Rule) : Rule :=
  if chosen r then r.withPolicy .persist else r

/-- The monitor of the relaxed rule with the same windows. -/
def Monitor.relaxed (chosen : Rule → Bool) (m : Monitor) : Monitor :=
  { m with rule := m.rule.relaxed chosen }

/-- The decision with the relaxed winners. -/
def Decision.relaxed (chosen : Rule → Bool) (d : Decision) : Decision :=
  { d with winners := d.winners.map (·.relaxed chosen) }

/-- The scheduler with relaxed monitors. -/
def Scheduler.relaxed (chosen : Rule → Bool) (s : Scheduler) : Scheduler :=
  { s with monitors := s.monitors.map (·.relaxed chosen) }

variable {chosen : Rule → Bool}

namespace Rule

theorem relaxed_eq_withPolicy (chosen : Rule → Bool) (r : Rule) :
    r.relaxed chosen = r.withPolicy (if chosen r then .persist else r.policy) := by
  unfold relaxed
  split <;> rfl

@[simp] theorem relaxed_name (r : Rule) : (r.relaxed chosen).name = r.name := by
  rw [relaxed_eq_withPolicy]
  rfl

@[simp] theorem relaxed_comment (r : Rule) : (r.relaxed chosen).comment = r.comment := by
  rw [relaxed_eq_withPolicy]
  rfl

@[simp] theorem relaxed_isRequired (r : Rule) (target : Target) :
    (r.relaxed chosen).isRequired target = r.isRequired target := by
  rw [relaxed_eq_withPolicy]
  rfl

theorem settleAll_congr {r r' : Rule} {inst : Instruction} {padding : Int64}
    {windows : List Window}
    (h : ∀ w ∈ windows, r'.settle inst padding w = r.settle inst padding w) :
    r'.settleAll inst padding windows = r.settleAll inst padding windows := by
  induction windows with
  | nil => rfl
  | cons w rest ih =>
      obtain ⟨hw, hrest⟩ := List.forall_mem_cons.mp h
      rw [settleAll, settleAll, hw, ih hrest]

end Rule

namespace Monitor

variable {m : Monitor} {inst : Instruction} {padding : Int64}

theorem peek_relaxed (m : Monitor) (inst : Instruction) :
    (m.relaxed chosen).peek inst = m.peek inst := by
  simp only [peek, relaxed, Rule.relaxed_eq_withPolicy, Rule.owedAfter_withPolicy]

theorem Exact.settle_relaxed (hm : m.Exact) (hpadding : 0 ≤ padding)
    (hslots : padding.toInt + inst.waitStates.toInt + 20 < 2 ^ 63) {w : Window}
    (hw : w ∈ m.windows) :
    (m.rule.relaxed chosen).settle inst padding w = m.rule.settle inst padding w := by
  rw [Rule.relaxed_eq_withPolicy]
  cases hpolicy : m.rule.policy with
  | persist => rw [ite_self, ← hpolicy, Rule.withPolicy_self]
  | closeOnHazard =>
      have hyoung := hm.young w hw
      have hage := Int64.lt_iff_toInt_lt.mp (Int64.lt_of_lt_of_le hyoung.lt_size hyoung.size_le)
      have hlimit : (20 : Int64).toInt = 20 := by decide
      have hwhole : ∀ n, m.rule.check w inst = .ok (some n) → n = w.size :=
        fun n hn => hm.sound.check_closing (hm.admits w hw) hpolicy hn
      exact Rule.settle_withPolicy hwhole hyoung.nonneg hpadding (by omega) _

/-- A monitor with exact ages commits alike if its rule is relaxed. -/
theorem Exact.commit_relaxed (hm : m.Exact) (hpadding : 0 ≤ padding)
    (hslots : padding.toInt + inst.waitStates.toInt + 20 < 2 ^ 63) :
    (m.relaxed chosen).commit inst padding = (m.commit inst padding).map (·.relaxed chosen) := by
  have hsettle : ∀ w ∈ m.windows,
      (m.rule.relaxed chosen).settle inst padding w = m.rule.settle inst padding w :=
    fun w hw => hm.settle_relaxed hpadding hslots hw
  have hopening : (m.rule.relaxed chosen).opening inst = m.rule.opening inst := by
    rw [Rule.relaxed_eq_withPolicy]
    rfl
  simp only [commit, relaxed, Rule.settleAll_congr hsettle, hopening]
  cases m.rule.settleAll inst padding m.windows with
  | error e => rfl
  | ok kept =>
      cases m.rule.opening inst with
      | error e => rfl
      | ok opened => cases opened <;> rfl

end Monitor

/-! ## One step -/

namespace Decision

@[simp] theorem relaxed_padding (d : Decision) : (d.relaxed chosen).padding = d.padding := rfl

theorem comment_relaxed (d : Decision) : (d.relaxed chosen).comment = d.comment := by
  have hcomments : (d.relaxed chosen).winners.map (·.comment) = d.winners.map (·.comment) := by
    simp [relaxed]
  unfold comment
  rw [hcomments]

theorem consider_relaxed (d : Decision) (r : Rule) (nops : Int64) :
    (d.relaxed chosen).consider (r.relaxed chosen) nops = (d.consider r nops).relaxed chosen := by
  unfold consider
  rw [relaxed_padding]
  split
  · rfl
  · split
    · simp [relaxed]
    · rfl

end Decision

theorem Stats.record_relaxed (stats : Stats) (chosen : Rule → Bool) (d : Decision) :
    stats.record (d.relaxed chosen) = stats.record d := by
  simp [record, Decision.relaxed, List.foldl_map]

namespace Scheduler

variable {inst : Instruction}

theorem decide_relaxed (chosen : Rule → Bool) (d : Decision) (monitors : List Monitor) :
    decide inst (d.relaxed chosen) (monitors.map (·.relaxed chosen)) =
      (decide inst d monitors).map (·.relaxed chosen) := by
  induction monitors generalizing d with
  | nil => rfl
  | cons m rest ih =>
      rw [List.map_cons, decide, decide, Monitor.peek_relaxed]
      cases m.peek inst with
      | error e =>
          have hname : (m.relaxed chosen).rule.name = m.rule.name := m.rule.relaxed_name
          simp only [hname]
          rfl
      | ok nops =>
          simp only
          rw [← ih, ← Decision.consider_relaxed]
          rfl

theorem commitAll_relaxed {padding : Int64} (hpadding : 0 ≤ padding)
    (hslots : padding.toInt + inst.waitStates.toInt + 20 < 2 ^ 63) {monitors : List Monitor}
    (hexact : ∀ m ∈ monitors, m.Exact) :
    commitAll inst padding (monitors.map (·.relaxed chosen)) =
      (commitAll inst padding monitors).map (·.map (·.relaxed chosen)) := by
  induction monitors with
  | nil => rfl
  | cons m rest ih =>
      obtain ⟨hm, hrest⟩ := List.forall_mem_cons.mp hexact
      rw [List.map_cons, commitAll, commitAll, hm.commit_relaxed hpadding hslots, ih hrest]
      cases m.commit inst padding with
      | error e =>
          have hname : (m.relaxed chosen).rule.name = m.rule.name := m.rule.relaxed_name
          simp only [Except.map, hname]
      | ok next => cases commitAll inst padding rest <;> rfl

/-- A decision is no larger than what one monitor with exact ages can ask for. -/
theorem decide_padding_le {monitors : List Monitor} (hexact : ∀ m ∈ monitors, m.Exact)
    {d : Decision} (h : decide inst {} monitors = .ok d) :
    0 ≤ d.padding ∧ d.padding.toInt ≤ 20 := by
  obtain ⟨hnonneg, _, hattained⟩ := decide_spec h
  refine ⟨hnonneg, ?_⟩
  rcases hattained with hzero | ⟨m, hm, hpeek⟩
  · rw [hzero]
    decide
  · exact (hexact m hm).peek_le hpeek

/-- A step with relaxed rules is the step, relaxed. -/
theorem step_relaxed {s : Scheduler} (hexact : ∀ m ∈ s.monitors, m.Exact)
    (hwait : inst.waitStates.toInt ≤ 2 ^ 62) (position : Nat) :
    (s.relaxed chosen).step position inst =
      (s.step position inst).map fun (d, next) => (d.relaxed chosen, next.relaxed chosen) := by
  have hempty : (s.relaxed chosen).monitors.isEmpty = s.monitors.isEmpty := by
    simp [relaxed]
  have hdecide : decide inst {} (s.relaxed chosen).monitors =
      (decide inst {} s.monitors).map (·.relaxed chosen) :=
    decide_relaxed chosen {} s.monitors
  unfold step
  rw [hempty, hdecide]
  split
  · rfl
  · cases inst.defect? with
    | some defect => rfl
    | none =>
        cases hd : decide inst {} s.monitors with
        | error e => rfl
        | ok d =>
            obtain ⟨hnonneg, hle⟩ := decide_padding_le hexact hd
            have hcommit : commitAll inst d.padding (s.relaxed chosen).monitors =
                (commitAll inst d.padding s.monitors).map (·.map (·.relaxed chosen)) :=
              commitAll_relaxed hnonneg (by omega) hexact
            simp only [Except.map, Decision.relaxed_padding, hcommit, Stats.record_relaxed]
            cases commitAll inst d.padding s.monitors <;> rfl

/-! ## A whole pass -/

/-- The pass of the relaxed scheduler. -/
def Pass.relaxed {σ : Type} (chosen : Rule → Bool) (pass : Pass σ) : Pass σ :=
  { pass with scheduler := pass.scheduler.relaxed chosen }

theorem proceed_relaxed {σ : Type} {report : Nat → Instruction → Decision → Scheduler → List String}
    (hreport : ∀ position inst d (s : Scheduler),
      report position inst (d.relaxed chosen) (s.relaxed chosen) = report position inst d s)
    {consume : Instruction → σ → ForInStep σ} {pass : Pass σ} {history : List Issue}
    (h : pass.scheduler.Remembers history) (hmodest : ∀ issue ∈ history, issue.Modest)
    {stream : List Instruction} (hwaits : ∀ inst ∈ stream, inst.waitStates.toInt ≤ 2 ^ 62) :
    proceed report consume (pass.relaxed chosen) stream =
      (proceed report consume pass stream).relaxed chosen := by
  induction stream generalizing pass history with
  | nil => rfl
  | cons inst rest ih =>
      obtain ⟨hwait, hlater⟩ := List.forall_mem_cons.mp hwaits
      have hstep : (pass.relaxed chosen).scheduler.step (pass.relaxed chosen).pulled inst =
          (pass.scheduler.step pass.pulled inst).map
            fun (d, next) => (d.relaxed chosen, next.relaxed chosen) :=
        step_relaxed (h.exact hmodest) hwait pass.pulled
      rw [proceed, proceed, hstep]
      cases htaken : pass.scheduler.step pass.pulled inst with
      | error e => rfl
      | ok result =>
          obtain ⟨d, next⟩ := result
          have hissue := h.step_modest hmodest hwait htaken
          have hdeliver : deliver consume (d.relaxed chosen) inst (pass.relaxed chosen).state =
              deliver consume d inst pass.state :=
            deliver_congr consume d.relaxed_padding d.comment_relaxed inst pass.state
          simp only [Except.map, hreport, hdeliver]
          cases deliver consume d inst pass.state with
          | done state => rfl
          | yield state =>
              let after : Pass σ := { pass with
                scheduler := next, state, pulled := pass.pulled + 1
                log := pass.log ++ report pass.pulled inst d next }
              have hnext : after.scheduler.Remembers (⟨inst, d.padding⟩ :: history) :=
                h.step htaken
              exact ih hnext (List.forall_mem_cons.mpr ⟨hissue, hmodest⟩) hlater

/-- Relaxing rules before or after a scheduler is made is the same. -/
theorem new_relaxed (target : Target) (rules : List Rule) (disabled : List String) :
    Scheduler.new target (rules.map (·.relaxed chosen)) disabled =
      (Scheduler.new target rules disabled).relaxed chosen := by
  let active (r : Rule) : Bool := r.isRequired target && !disabled.contains r.name
  have hactive : active ∘ Rule.relaxed chosen = active := by
    funext r
    simp [active]
  have hmonitors : (Scheduler.new target (rules.map (Rule.relaxed chosen)) disabled).monitors =
      ((Scheduler.new target rules disabled).relaxed chosen).monitors := by
    simp only [Scheduler.new, relaxed, List.filter_map]
    rw [hactive, List.map_map, List.map_map]
    rfl
  exact congrArg (fun monitors => { Scheduler.new target rules disabled with monitors }) hmonitors

theorem run_relaxed (target : Target) (disabled : List String) {stream : List Instruction}
    (hwaits : ∀ inst ∈ stream, inst.waitStates.toInt ≤ 2 ^ 62) {σ : Type} (init : σ)
    (consume : Instruction → σ → ForInStep σ) :
    (Scheduler.new target (Catalogue.rules.map (·.relaxed chosen)) disabled).run stream init
        consume =
      ((Scheduler.new target Catalogue.rules disabled).run stream init consume).relaxed chosen := by
  rw [new_relaxed]
  let start : Pass σ :=
    { scheduler := (Scheduler.new target Catalogue.rules disabled).started, state := init }
  have hstart : start.scheduler.Remembers [] := remembers_started target disabled
  exact proceed_relaxed (fun _ _ _ _ => rfl) hstart (by simp) hwaits

end Scheduler

/-- The rules that close windows on a conflict ask for whole windows. -/
theorem Catalogue.asksForAll_of_closing :
    ∀ r ∈ Catalogue.rules, r.policy = .closeOnHazard →
      r.sizes.max.toInt ≤ 2 ^ 61 ∧ r.AsksForAll := by
  intro r hr hpolicy
  refine ⟨?_, fun w inst n hw hn => (rules_sound r hr).closing hpolicy w inst w.size n hw hn⟩
  revert r
  decide

namespace Scheduler

/-- Closing windows early is an optimisation. A rule whose conflicts ask for whole windows answers
every sequence of calls alike whether it closes them or not, and shows the same windows. The rules
of the catalogue that close windows are of this kind: if any of them let their windows persist, no
consumer of a padded stream can tell, and the account is the same. -/
theorem closing_early_unobservable :
    (∀ (r : Rule) (calls : List Call), r.sizes.max.toInt ≤ 2 ^ 61 → r.AsksForAll →
      (∀ call ∈ calls, call.Modest) →
      ({ rule := r.withPolicy .closeOnHazard } : Residue).transcript calls =
        ({ rule := r.withPolicy .persist } : Residue).transcript calls) ∧
    (∀ r ∈ Catalogue.rules, r.policy = .closeOnHazard →
      r.sizes.max.toInt ≤ 2 ^ 61 ∧ r.AsksForAll) ∧
    ∀ (target : Target) (disabled : List String) (stream : List Instruction)
      (chosen : Rule → Bool), (∀ inst ∈ stream, inst.op = .nop → inst.count.toInt ≤ 2 ^ 62) →
      let s := Scheduler.new target Catalogue.rules disabled
      let s' := Scheduler.new target (Catalogue.rules.map (·.relaxed chosen)) disabled
      (s'.scheduleAll stream).1 = (s.scheduleAll stream).1 ∧
        (s'.scheduleAll stream).2.stats = (s.scheduleAll stream).2.stats ∧
        ∀ (σ : Type) (init : σ) (consume : Instruction → σ → ForInStep σ),
          let pass := s.run stream init consume
          let pass' := s'.run stream init consume
          pass'.state = pass.state ∧ pass'.pulled = pass.pulled ∧ pass'.failure = pass.failure ∧
            pass'.scheduler.stats = pass.scheduler.stats := by
  refine ⟨?_, Catalogue.asksForAll_of_closing, ?_⟩
  · intro r calls hmax hr hcalls
    have hstart : ({ rule := r.withPolicy .persist } : Residue).Tidy := .fresh _
    exact hstart.transcript_withPolicy hr (.fresh _) hmax hcalls .closeOnHazard
  · intro target disabled stream chosen hcounts s s'
    have hwaits := fun inst hinst => Instruction.waitStates_le (hcounts inst hinst)
    have hrun : ∀ {σ : Type} (init : σ) (consume : Instruction → σ → ForInStep σ),
        s'.run stream init consume = (s.run stream init consume).relaxed chosen :=
      run_relaxed target disabled hwaits
    have hall : s'.scheduleAll stream =
        ((s.scheduleAll stream).1, (s.scheduleAll stream).2.relaxed chosen) := by
      simp only [scheduleAll, hrun, Pass.relaxed]
      split <;> rfl
    refine ⟨by rw [hall], by rw [hall]; rfl, fun σ init consume => ?_⟩
    rw [hrun]
    exact ⟨rfl, rfl, rfl, rfl⟩

-- The division asks for the whole window of the condition code, and is padded by just that.
theorem closing_early_unobservable_division :
    let write : Instruction := .valu "" .vcc [⟨.vector, 0, 1⟩]
    let divide : Instruction := .new .divFmas "" [⟨.vector, 1, 1⟩] [⟨.vector, 2, 1⟩]
    let calls : List Call := [.observe write 0, .peek divide, .observe divide 4, .peek divide]
    let closing : Residue := { rule := Catalogue.conditionToDivision }
    let kept := Catalogue.rules.map (·.relaxed fun _ => true)
    (Catalogue.rules.filter (·.policy = .closeOnHazard)).length = 5 ∧
      (closing.transcript calls).map (·.1) = [.ok none, .ok (some 4), .ok none, .ok (some 0)] ∧
      closing.transcript calls = (closing.withPolicy .persist).transcript calls ∧
      ((Scheduler.new { family := .cdna3 } kept []).scheduleAll [write, divide]).1 =
        ((Scheduler.new { family := .cdna3 } Catalogue.rules []).scheduleAll [write, divide]).1 := by
  intro write divide calls closing kept
  obtain ⟨hcalls, hcatalogue, hstreams⟩ := closing_early_unobservable
  have hmodest : ∀ call ∈ calls, call.Modest := by decide
  obtain ⟨hmax, hwhole⟩ := hcatalogue Catalogue.conditionToDivision
    (List.mem_of_getElem? (rfl : Catalogue.rules[8]? = some Catalogue.conditionToDivision)) rfl
  exact ⟨by decide, by decide +kernel, hcalls _ calls hmax hwhole hmodest,
    (hstreams { family := .cdna3 } [] [write, divide] (fun _ => true) (by decide)).1⟩

end Scheduler

end Interlock
