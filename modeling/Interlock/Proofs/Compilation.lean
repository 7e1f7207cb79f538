import Interlock.Compilation
import Interlock.Proofs.Scheduler.Plan

/-! # What a compilation comes to

The questions about cancellation only decide whether a compilation gives up. They are asked before
the first instruction and then as often as the padded stream has passed a checkpoint, and the
compilation gives up exactly if one of them is answered so. One that does not comes to what
scheduling the kernel in one go comes to, whatever it is called in the log and however much it
reports.
-/

namespace Interlock

namespace Scheduler

theorem step_named (s : Scheduler) (name : String) (position : Nat) (inst : Instruction) :
    ({ s with name } : Scheduler).step position inst =
      (s.step position inst).map fun (d, next) => (d, { next with name }) := by
  unfold step
  split
  · rfl
  · cases inst.defect? with
    | some defect => rfl
    | none =>
        cases decide inst {} s.monitors with
        | error e => rfl
        | ok d =>
            cases hcommit : commitAll inst d.padding s.monitors with
            | error e => simp [hcommit, Except.map]
            | ok monitors => simp [hcommit, Except.map]

/-- The name of a scheduler is for the log only. -/
theorem plan_named (s : Scheduler) (name : String) (position : Nat) (stream : List Instruction) :
    ({ s with name } : Scheduler).plan position stream =
      { s.plan position stream with
        scheduler := { (s.plan position stream).scheduler with name } } := by
  induction stream generalizing s position with
  | nil => rfl
  | cons inst rest ih =>
      unfold plan
      rw [step_named]
      cases s.step position inst with
      | error e => rfl
      | ok result =>
          obtain ⟨d, next⟩ := result
          simp only [Except.map, ih]

theorem scheduleAll_named (s : Scheduler) (hs : s.consumed = false) (name : String)
    (stream : List Instruction) :
    ({ s with name } : Scheduler).scheduleAll stream =
      ((s.scheduleAll stream).1, { (s.scheduleAll stream).2 with name }) := by
  have hplan := plan_named s.started name 0 stream
  rw [scheduleAll_eq s hs, scheduleAll_eq { s with name } hs]
  simp only [decisions, started] at hplan ⊢
  simp only [hplan]

end Scheduler

namespace Compilation

/-! ## Collecting with questions -/

/-- The run has asked whenever it was due, and was never told to give up. -/
structure OnSchedule (cancellation : Cancellation) (p : Progress) : Prop where
  going : p.cancelled = false
  asked : p.asked = p.out.size / checkEvery + 1
  answers : ∀ n ≤ p.out.size / checkEvery, cancellation n = false

/-- The consumer gave up at a question that was due among the items, or it collected the items and
goes on. -/
inductive Collected (cancellation : Cancellation) (p : Progress) (items : List Instruction) :
    ForInStep Progress → Prop
  | stopped {p' : Progress} {n : Nat} (hcancelled : p'.cancelled = true)
      (hdue : n ≤ (p.out.size + items.length) / checkEvery) (hreason : cancellation n = true) :
      Collected cancellation p items (.done p')
  | collected {p' : Progress} (hgoes : OnSchedule cancellation p')
      (hout : p'.out.toList = p.out.toList ++ items) : Collected cancellation p items (.yield p')

section

variable {cancellation : Cancellation} {p : Progress}

/-- Two consumptions in a row collect one after the other. -/
theorem Collected.andThen {items items' : List Instruction} {first result : ForInStep Progress}
    (hfirst : Collected cancellation p items first)
    (hdone : ∀ p', first = .done p' → result = .done p')
    (hyield : ∀ p', first = .yield p' → OnSchedule cancellation p' →
      Collected cancellation p' items' result) :
    Collected cancellation p (items ++ items') result := by
  cases hfirst with
  | stopped hcancelled hdue hreason =>
      rw [hdone _ rfl]
      refine .stopped hcancelled (hdue.trans (Nat.div_le_div_right ?_)) hreason
      simp
  | @collected p' hgoes hout =>
      have hsize : p'.out.size = p.out.size + items.length := by
        simpa using congrArg List.length hout
      cases hyield _ rfl hgoes with
      | stopped hcancelled hdue hreason =>
          refine .stopped hcancelled ?_ hreason
          rwa [List.length_append, ← Nat.add_assoc, ← hsize]
      | collected hgoes' hout' => exact .collected hgoes' (by rw [hout', hout, List.append_assoc])

theorem advance_collected (hp : OnSchedule cancellation p) (inst : Instruction) :
    Collected cancellation p [inst] (advance cancellation inst p) := by
  obtain ⟨hgoing, hasked, hanswers⟩ := hp
  unfold advance
  dsimp only
  split
  next hdue =>
    -- The question is the one after those that came before.
    have hnumber : (p.out.push inst).size / checkEvery = p.asked := by
      simp only [Array.size_push, checkEvery] at hdue hasked ⊢
      omega
    split
    next htold =>
      refine .stopped htold ?_ htold
      rw [List.length_singleton, ← Array.size_push, hnumber]
    next hnot =>
      refine .collected ⟨Bool.not_eq_true _ ▸ hnot, ?_, ?_⟩ (by simp)
      · rw [hnumber]
      · rw [hnumber]
        intro n hn
        rcases Nat.lt_or_eq_of_le hn with hlt | rfl
        · exact hanswers n (by omega)
        · exact Bool.not_eq_true _ ▸ hnot
  next hdue =>
    have hnumber : (p.out.push inst).size / checkEvery = p.out.size / checkEvery := by
      simp only [Array.size_push, checkEvery] at hdue ⊢
      omega
    exact .collected ⟨hgoing, by rw [hnumber, hasked], by rwa [hnumber]⟩ (by simp)

theorem deliverPadding_collected (hp : OnSchedule cancellation p) (comment : String)
    (count : Nat) :
    Collected cancellation p (List.replicate count (.pad comment))
      (Scheduler.deliverPadding (advance cancellation) comment count p) := by
  induction count generalizing p with
  | zero => exact .collected hp (by simp)
  | succ count ih =>
      rw [List.replicate_succ, ← List.singleton_append]
      apply (advance_collected hp _).andThen
      · intro p' hdone
        simp only [Scheduler.deliverPadding, hdone]
      · intro p' hyield hp'
        simp only [Scheduler.deliverPadding, hyield]
        exact ih hp'

theorem deliver_collected (hp : OnSchedule cancellation p) (d : Decision) (inst : Instruction) :
    Collected cancellation p (d.emit inst) (Scheduler.deliver (advance cancellation) d inst p) := by
  apply (deliverPadding_collected hp d.comment d.pads).andThen
  · intro p' hdone
    rw [Decision.pads] at hdone
    simp only [Scheduler.deliver, hdone]
  · intro p' hyield hp'
    rw [Decision.pads] at hyield
    simp only [Scheduler.deliver, hyield]
    exact advance_collected hp' inst

/-- A pass gives up at a question that was due along the padded stream, or it collects the whole of
the padded stream. -/
theorem proceed_advance (cancellation : Cancellation)
    (report : Nat → Instruction → Decision → Scheduler → List String)
    (stream : List Instruction) (pass : Scheduler.Pass Progress)
    (hpass : OnSchedule cancellation pass.state) (hfailure : pass.failure = none) :
    let result := Scheduler.proceed report (advance cancellation) pass stream
    let plan := pass.scheduler.plan pass.pulled stream
    let items := Scheduler.emitted plan.decisions stream
    (result.state.cancelled = true ∧
        ∃ n ≤ (pass.state.out.size + items.length) / checkEvery, cancellation n = true) ∨
      (OnSchedule cancellation result.state ∧ result.failure = plan.failure ∧
        result.scheduler = plan.scheduler ∧
        result.state.out.toList = pass.state.out.toList ++ items) := by
  induction stream generalizing pass with
  | nil =>
      right
      simp [Scheduler.proceed, Scheduler.plan, hpass, hfailure]
  | cons inst rest ih =>
      unfold Scheduler.proceed Scheduler.plan
      cases hstep : pass.scheduler.step pass.pulled inst with
      | error e =>
          right
          simp [hpass]
      | ok result =>
          obtain ⟨d, next⟩ := result
          have hdelivered : Collected cancellation pass.state (d.emit inst)
              (Scheduler.deliver (advance cancellation) d inst pass.state) :=
            deliver_collected hpass d inst
          cases hdeliver : Scheduler.deliver (advance cancellation) d inst pass.state with
          | done p' =>
              rw [hdeliver] at hdelivered
              cases hdelivered with
              | @stopped _ n hcancelled hdue hreason =>
                  simp only [hdeliver, Scheduler.emitted_cons, List.length_append]
                  refine Or.inl ⟨hcancelled, n, hdue.trans (Nat.div_le_div_right ?_), hreason⟩
                  omega
          | yield p' =>
              rw [hdeliver] at hdelivered
              cases hdelivered with
              | collected hgoes hout =>
                  have hsize : p'.out.size = pass.state.out.size + (d.emit inst).length := by
                    simpa using congrArg List.length hout
                  have hrest := ih { pass with
                    scheduler := next
                    state := p'
                    pulled := pass.pulled + 1
                    log := pass.log ++ report pass.pulled inst d next } hgoes hfailure
                  simp only [hdeliver, Scheduler.emitted_cons, List.length_append]
                  simpa only [hout, hsize, List.append_assoc, Nat.add_assoc] using hrest

end

/-- What scheduling a stream in one go comes to. -/
def outcome (c : Compilation) (stream : List Instruction) : Except CompileError CompiledKernel :=
  match c.scheduler.scheduleAll stream with
  | (.error e, _) => .error (.schedule c.name.shown e)
  | (.ok instructions, after) => .ok
    { name := c.name
      target := c.target
      instructions
      stats := after.stats
      paddingTime := c.clock.duration after.stats.padding }

/-- What a compilation is called in the log makes no difference to what it comes to. -/
theorem outcome_named (c : Compilation) (hfresh : c.scheduler.consumed = false) (id name : String)
    (stream : List Instruction) :
    ({ c with id, scheduler := { c.scheduler with name } } : Compilation).outcome stream =
      c.outcome stream := by
  unfold outcome
  rw [Scheduler.scheduleAll_named c.scheduler hfresh]
  rcases c.scheduler.scheduleAll stream with ⟨result, after⟩
  cases result with
  | error e => rfl
  | ok instructions => rfl

/-- The number of instructions that scheduling a stream in one go delivers, up to its end or to
what ends it early. -/
def delivered (c : Compilation) (stream : List Instruction) : Nat :=
  (c.scheduler.run stream #[] Scheduler.collect).state.size

/-- A compilation gives up at a question that was due along the padded stream, or comes to what
scheduling the stream in one go comes to and was never told to give up. -/
theorem run_cases (c : Compilation) (hfresh : c.scheduler.consumed = false) (verbosity : Int)
    (cancellation : Cancellation) (stream : List Instruction) :
    ((c.run verbosity cancellation stream).1 = .error (.cancelled c.name.shown) ∧
        ∃ n ≤ c.delivered stream / checkEvery, cancellation n = true) ∨
      ((c.run verbosity cancellation stream).1 = c.outcome stream ∧
        ∀ n ≤ c.delivered stream / checkEvery, cancellation n = false) := by
  have hdelivered : c.delivered stream =
      (Scheduler.emitted (c.scheduler.decisions stream) stream).length := by
    rw [delivered, ← Scheduler.run_collect _ hfresh, Array.length_toList]
  unfold run
  cases hearly : cancellation 0 with
  | true => exact Or.inl ⟨rfl, 0, Nat.zero_le _, hearly⟩
  | false =>
      have hstart : OnSchedule cancellation { asked := 1 } :=
        ⟨rfl, rfl, fun n hn => Nat.le_zero.mp hn ▸ hearly⟩
      have hpass := proceed_advance cancellation (Scheduler.stepLog verbosity) stream
        { scheduler := c.scheduler.started, state := { asked := 1 } } hstart rfl
      rw [outcome, Scheduler.scheduleAll_eq c.scheduler hfresh, hdelivered]
      simp only [Scheduler.runReporting, hfresh, Bool.false_eq_true, if_false, paddingTime]
      rcases hpass with ⟨hcancelled, n, hdue, hreason⟩ | ⟨hgoes, hfailure, hscheduler, hout⟩
      · left
        refine ⟨?_, n, ?_, hreason⟩
        · simp only [Scheduler.started] at hcancelled
          simp only [hcancelled, if_true]
        · simpa [Scheduler.decisions] using hdue
      · right
        have hanswers := hgoes.answers
        rw [← Array.length_toList, hout] at hanswers
        have hgoing := hgoes.going
        simp only [Scheduler.started] at hgoing hfailure hscheduler hout
        refine ⟨?_, by simpa [Scheduler.decisions] using hanswers⟩
        simp only [hgoing, hfailure, hscheduler, hout, Scheduler.decisions, Scheduler.started,
          Bool.false_eq_true, if_false]
        cases (Scheduler.plan _ 0 stream).failure with
        | some e => rfl
        | none => rfl

/-- Scheduling never gives up by itself. -/
theorem outcome_ne_cancelled (c : Compilation) (stream : List Instruction) (name : String) :
    c.outcome stream ≠ .error (.cancelled name) := by
  unfold outcome
  split <;> simp

end Compilation

/-! ## The result -/

/-- What compiling a kernel comes to when nothing cancels it. -/
def Kernel.outcome (kernel : Kernel) (config : Config) : Except CompileError CompiledKernel :=
  match Compilation.new config kernel "" with
  | .error e => .error e
  | .ok c => c.outcome kernel.instructions

/-- A compilation gives up because it was told to, or it comes to the same whatever it is called in
the log and however much it reports. -/
theorem compile_outcome (verbosity : Int) (cancellation : Cancellation) (id : String)
    (config : Config) (kernel : Kernel) :
    ((compile verbosity cancellation id config kernel).1 = .error (.cancelled kernel.name.shown) ∧
        ∃ n, cancellation n = true) ∨
      (compile verbosity cancellation id config kernel).1 = kernel.outcome config := by
  unfold compile Kernel.outcome Compilation.new
  cases Target.parse (if kernel.target = "" then config.target else kernel.target) with
  | error e => exact Or.inr rfl
  | ok target =>
      let c : Compilation :=
        { id := "", name := kernel.name, target
          scheduler :=
            .new target Catalogue.rules config.disabledNames (kernel.name.shown ++ "/" ++ "")
          clock := ⟨config.clockMHz⟩ }
      have hnamed := c.outcome_named rfl id (kernel.name.shown ++ "/" ++ id) kernel.instructions
      have hrun := Compilation.run_cases
        { c with id, scheduler := { c.scheduler with name := kernel.name.shown ++ "/" ++ id } } rfl
        verbosity cancellation kernel.instructions
      rw [hnamed] at hrun
      rcases hrun with ⟨hcancelled, n, _, hreason⟩ | ⟨houtcome, _⟩
      · exact Or.inl ⟨hcancelled, n, hreason⟩
      · exact Or.inr houtcome

/-- Nothing but the questions about cancellation makes a compilation give up. -/
theorem compile_never (verbosity : Int) (id : String) (config : Config) (kernel : Kernel) :
    (compile verbosity .never id config kernel).1 = kernel.outcome config := by
  rcases compile_outcome verbosity .never id config kernel with ⟨_, n, hn⟩ | h
  · simp [Cancellation.never] at hn
  · exact h

theorem Kernel.outcome_ne_cancelled (kernel : Kernel) (config : Config) (name : String) :
    kernel.outcome config ≠ .error (.cancelled name) := by
  intro h
  unfold Kernel.outcome Compilation.new at h
  cases htarget : Target.parse (if kernel.target = "" then config.target else kernel.target) with
  | error e => simp [htarget] at h
  | ok target =>
      simp only [htarget] at h
      exact Compilation.outcome_ne_cancelled _ _ _ h

/-- A compiled kernel is the padded stream of a kernel, for the target that was asked for. -/
theorem Kernel.outcome_eq_ok {kernel : Kernel} {config : Config} {result : CompiledKernel}
    (h : kernel.outcome config = .ok result) :
    Target.parse (if kernel.target = "" then config.target else kernel.target) =
        .ok result.target ∧
      ∃ ds, result.instructions = Scheduler.emitted ds kernel.instructions := by
  unfold Kernel.outcome Compilation.new at h
  cases htarget : Target.parse (if kernel.target = "" then config.target else kernel.target) with
  | error e => simp [htarget] at h
  | ok target =>
      simp only [htarget, Compilation.outcome] at h
      split at h
      · cases h
      next instructions after hall =>
        cases h
        have hok := Scheduler.scheduleAll_eq_ok rfl (congrArg Prod.fst hall)
        exact ⟨rfl, _, hok.2⟩

/-! ## Cancellation -/

namespace Compilation

/-- What a scheduler of the compilation's rules makes of a stream, as a compiled kernel. -/
theorem outcome_of_new {config : Config} {kernel : Kernel} {id : String} {c : Compilation}
    (h : Compilation.new config kernel id = .ok c) (stream : List Instruction) :
    c.scheduler.consumed = false ∧ c.name = kernel.name ∧
      c.outcome stream =
        match (Scheduler.new c.target Catalogue.rules config.disabledNames).scheduleAll stream with
        | (.error e, _) => .error (.schedule kernel.name.shown e)
        | (.ok instructions, after) => .ok
          { name := kernel.name
            target := c.target
            instructions
            stats := after.stats
            paddingTime := Clock.duration ⟨config.clockMHz⟩ after.stats.padding } := by
  unfold Compilation.new at h
  split at h
  next => cases h
  next target _ =>
    rw [Except.ok.injEq] at h
    subst h
    refine ⟨rfl, rfl, ?_⟩
    let s := Scheduler.new target Catalogue.rules config.disabledNames
    have hnamed := s.scheduleAll_named rfl (kernel.name.shown ++ "/" ++ id) stream
    have hscheduler : Scheduler.new target Catalogue.rules config.disabledNames
        (kernel.name.shown ++ "/" ++ id) =
          { s with name := kernel.name.shown ++ "/" ++ id } := rfl
    simp only [outcome, hscheduler, hnamed]
    rcases hall : s.scheduleAll stream with ⟨result, after⟩
    cases result with
    | error e => rfl
    | ok instructions => rfl

theorem run_never (c : Compilation) (hfresh : c.scheduler.consumed = false) (verbosity : Int)
    (stream : List Instruction) : (c.run verbosity .never stream).1 = c.outcome stream := by
  rcases c.run_cases hfresh verbosity .never stream with ⟨_, n, _, hreason⟩ | ⟨hrun, _⟩
  · simp [Cancellation.never] at hreason
  · exact hrun

/-- A compilation whose first questions are answered with no gives up exactly if it asks more. -/
theorem run_after (c : Compilation) (hfresh : c.scheduler.consumed = false) (verbosity : Int)
    (answered : Nat) (stream : List Instruction) :
    (c.run verbosity (.after answered) stream).1 =
      if answered ≤ c.delivered stream / checkEvery then .error (.cancelled c.name.shown)
      else c.outcome stream := by
  rcases c.run_cases hfresh verbosity (.after answered) stream with
    ⟨hrun, n, hdue, hreason⟩ | ⟨hrun, hanswers⟩
  · have hle : answered ≤ n := of_decide_eq_true hreason
    rw [hrun, if_pos (hle.trans hdue)]
  · have hlast := of_decide_eq_false (hanswers _ (Nat.le_refl _))
    rw [hrun, if_neg hlast]

/-- Cancellation is all or nothing. Where the questions about it are answered with yes from the
`m`-th on, a compilation gives up exactly if an `m`-th question is asked, with one before the first
instruction and one for every 1024 instructions that are delivered. If it does not, it comes to what
it comes to without cancellation, and that is what a scheduler for the target makes of the
stream. -/
theorem gives_up_at_checkpoints {config : Config} {kernel : Kernel} {id : String} {c : Compilation}
    (hnew : Compilation.new config kernel id = .ok c) (verbosity : Int) (m : Nat)
    (stream : List Instruction) :
    let delivered := (c.scheduler.run stream #[] Scheduler.collect).state.size
    let result := (c.run verbosity (.after (m - 1)) stream).1
    let undisturbed := (c.run verbosity .never stream).1
    (result = .error (.cancelled kernel.name.shown) ↔ m ≤ 1 + delivered / 1024) ∧
      (¬ m ≤ 1 + delivered / 1024 → result = undisturbed) ∧
      undisturbed =
        match (Scheduler.new c.target Catalogue.rules config.disabledNames).scheduleAll stream with
        | (.error e, _) => .error (.schedule kernel.name.shown e)
        | (.ok instructions, after) => .ok
          { name := kernel.name
            target := c.target
            instructions
            stats := after.stats
            paddingTime := Clock.duration ⟨config.clockMHz⟩ after.stats.padding } := by
  intro delivered result undisturbed
  obtain ⟨hfresh, hname, houtcome⟩ := outcome_of_new hnew stream
  have hdelivered : c.delivered stream / checkEvery = delivered / 1024 := rfl
  have hresult := c.run_after hfresh verbosity (m - 1) stream
  rw [hdelivered] at hresult
  refine ⟨?_, ?_, (c.run_never hfresh verbosity stream).trans houtcome⟩
  · rw [← hname]
    constructor
    · intro hcancelled
      by_contra hlate
      rw [if_neg (by omega)] at hresult
      exact c.outcome_ne_cancelled stream _ (hresult.symm.trans hcancelled)
    · intro hdue
      rwa [if_pos (by omega)] at hresult
  · intro hlate
    rw [if_neg (by omega)] at hresult
    exact hresult.trans (c.run_never hfresh verbosity stream).symm

-- The last instruction falls on a checkpoint, so the second question is asked and no third.
theorem gives_up_at_checkpoints_lastInstruction :
    let kernel : Kernel := ⟨"idle", "gfx1100", List.replicate 1024 (.nop 1)⟩
    ∃ c, Compilation.new {} kernel "" = .ok c ∧
      (c.scheduler.run kernel.instructions #[] Scheduler.collect).state.size = 1024 ∧
      (c.run 0 (.after 1) kernel.instructions).1 = .error (.cancelled "idle") ∧
      (c.run 0 (.after 2) kernel.instructions).1 = (c.run 0 .never kernel.instructions).1 := by
  intro kernel
  let target : Target := { processor := "gfx1100", family := .rdna3 }
  have htarget : Target.parse kernel.target = .ok target := by decide +kernel
  have hsize : ((Scheduler.new target Catalogue.rules [] "idle/").run kernel.instructions #[]
      Scheduler.collect).state.size = 1024 := by decide +kernel
  let c : Compilation :=
    { id := "", name := kernel.name, target, clock := ⟨2100.0⟩
      scheduler := .new target Catalogue.rules [] "idle/" }
  have hnew : Compilation.new {} kernel "" = .ok c := by
    simp only [Compilation.new, if_neg (show ¬ kernel.target = "" by decide), htarget]
    rfl
  refine ⟨c, hnew, hsize, ?_, ?_⟩
  · exact (gives_up_at_checkpoints hnew 0 2 kernel.instructions).1.mpr (by rw [hsize])
  · exact (gives_up_at_checkpoints hnew 0 3 kernel.instructions).2.1 (by rw [hsize]; decide)

end Compilation

end Interlock
