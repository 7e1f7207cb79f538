import Interlock.Proofs.Word
import Interlock.Scheduler

/-! # The plan of a scheduling pass

The plan of a stream is the list of the decisions on its instructions, up to the first that cannot
be scheduled. It does not mention a consumer. What a consumer that never stops is handed, whether
the stream ends early, and which state the scheduler is left in are all read off the plan.
-/

namespace Interlock

namespace Decision

/-- The number of padding instructions that are inserted. -/
def pads (d : Decision) : Nat := d.padding.toNatClampNeg

/-- The padding instructions. -/
def fill (d : Decision) : List Instruction := List.replicate d.pads (.pad d.comment)

/-- What is handed out for an instruction: its padding, and the instruction itself. -/
def emit (d : Decision) (inst : Instruction) : List Instruction := d.fill ++ [inst]

@[simp] theorem length_fill (d : Decision) : d.fill.length = d.pads := List.length_replicate

theorem natCast_pads {d : Decision} (hd : 0 ≤ d.padding) : (d.pads : Int) = d.padding.toInt :=
  Int.toNat_of_nonneg (Word.toInt_nonneg.mp hd)

end Decision

namespace Scheduler

/-- The decisions on a stream, the scheduler after them, and the error that ends them early. -/
structure Plan where
  decisions : List Decision := []
  scheduler : Scheduler
  failure : Option ScheduleError := none

/-- Steps through a stream that begins at an input position. -/
def plan (s : Scheduler) (position : Nat) : List Instruction → Plan
  | [] => { scheduler := s }
  | inst :: rest =>
    match s.step position inst with
    | .error e => { scheduler := s, failure := some e }
    | .ok (d, next) =>
      let planned := plan next (position + 1) rest
      { planned with decisions := d :: planned.decisions }

/-- The scheduler once it has begun to serve a stream. -/
def started (s : Scheduler) : Scheduler := { s with consumed := true }

/-- The decisions on the instructions of a stream. -/
def decisions (s : Scheduler) (stream : List Instruction) : List Decision :=
  (s.started.plan 0 stream).decisions

/-- The padded stream of some decisions. -/
def emitted (ds : List Decision) (stream : List Instruction) : List Instruction :=
  (List.zipWith Decision.emit ds stream).flatten

@[simp] theorem emitted_nil (stream : List Instruction) : emitted [] stream = [] := by
  simp [emitted]

@[simp] theorem emitted_cons (d : Decision) (ds : List Decision) (inst : Instruction)
    (stream : List Instruction) :
    emitted (d :: ds) (inst :: stream) = d.emit inst ++ emitted ds stream := by
  simp [emitted]

theorem emitted_append {ds : List Decision} {stream : List Instruction}
    (h : ds.length = stream.length) (ds' : List Decision) (stream' : List Instruction) :
    emitted (ds ++ ds') (stream ++ stream') = emitted ds stream ++ emitted ds' stream' := by
  simp [emitted, List.zipWith_append h]

theorem length_emitted {ds : List Decision} {stream : List Instruction}
    (h : ds.length = stream.length) :
    (emitted ds stream).length = ds.length + (ds.map Decision.pads).sum := by
  induction ds generalizing stream with
  | nil => simp
  | cons d ds ih =>
      cases stream with
      | nil => simp at h
      | cons inst stream =>
          have hrest := ih (Nat.succ.inj h)
          simp only [emitted_cons, Decision.emit, List.length_append, Decision.length_fill,
            List.length_cons, List.length_nil, hrest, List.map_cons, List.sum_cons]
          omega

/-- The place of the `k`-th instruction in the padded stream: behind the `k` instructions before it,
their padding, and its own. -/
def emittedAt (ds : List Decision) (k : Nat) : Nat :=
  k + ((ds.take (k + 1)).map Decision.pads).sum

theorem emittedAt_length (ds ds' : List Decision) (d : Decision) :
    emittedAt (ds ++ d :: ds') ds.length = ds.length + (ds.map Decision.pads).sum + d.pads := by
  have htake : (ds ++ d :: ds').take (ds.length + 1) = ds ++ [d] := by
    simp [List.take_append]
  simp [emittedAt, htake, Nat.add_assoc]

/-! ## Parts of a plan -/

section Parts

variable {s t : Scheduler} {position : Nat} {ds : List Decision}

/-- A plan without a failure begins with a step. -/
theorem plan_cons_eq {inst : Instruction} {rest : List Instruction}
    (h : s.plan position (inst :: rest) = ⟨ds, t, none⟩) :
    ∃ d next ds', s.step position inst = .ok (d, next) ∧
      next.plan (position + 1) rest = ⟨ds', t, none⟩ ∧ ds = d :: ds' := by
  unfold plan at h
  cases hstep : s.step position inst with
  | error e => simp [hstep] at h
  | ok result =>
      obtain ⟨d, next⟩ := result
      simp only [hstep, Plan.mk.injEq] at h
      obtain ⟨rfl, rfl, hfailure⟩ := h
      exact ⟨d, next, _, rfl, by rw [← hfailure], rfl⟩

theorem plan_length {stream : List Instruction} (h : s.plan position stream = ⟨ds, t, none⟩) :
    ds.length = stream.length := by
  induction stream generalizing s position ds with
  | nil =>
      simp only [plan, Plan.mk.injEq] at h
      simp [← h.1]
  | cons inst rest ih =>
      obtain ⟨d, next, ds', _, hrest, rfl⟩ := plan_cons_eq h
      simp [ih hrest]

/-- The plan of a stream in two parts is the plan of the first, continued. -/
theorem plan_append {first : List Instruction} (h : s.plan position first = ⟨ds, t, none⟩)
    (second : List Instruction) :
    s.plan position (first ++ second) =
      { t.plan (position + first.length) second with
        decisions := ds ++ (t.plan (position + first.length) second).decisions } := by
  induction first generalizing s position ds with
  | nil =>
      simp only [plan, Plan.mk.injEq] at h
      obtain ⟨rfl, rfl, _⟩ := h
      simp
  | cons inst rest ih =>
      obtain ⟨d, next, ds', hstep, hrest, rfl⟩ := plan_cons_eq h
      simp only [List.cons_append, plan, hstep, ih hrest, List.length_cons, Nat.add_assoc,
        Nat.add_comm 1]

/-- A plan without a failure falls into the plans of any two parts of the stream. -/
theorem plan_append_eq {first second : List Instruction}
    (h : s.plan position (first ++ second) = ⟨ds, t, none⟩) :
    ∃ ds₁ middle ds₂, s.plan position first = ⟨ds₁, middle, none⟩ ∧
      middle.plan (position + first.length) second = ⟨ds₂, t, none⟩ ∧ ds = ds₁ ++ ds₂ := by
  induction first generalizing s position ds with
  | nil => exact ⟨[], s, ds, rfl, by simpa using h, rfl⟩
  | cons inst rest ih =>
      obtain ⟨d, next, ds', hstep, hrest, rfl⟩ := plan_cons_eq h
      obtain ⟨ds₁, middle, ds₂, hfirst, hsecond, rfl⟩ := ih hrest
      refine ⟨d :: ds₁, middle, ds₂, ?_, ?_, rfl⟩
      · simp [plan, hstep, hfirst]
      · rwa [List.length_cons, Nat.add_comm rest.length, ← Nat.add_assoc]

/-- A plan without a failure has a step at every instruction of the stream. -/
theorem plan_split {before after : List Instruction} {inst : Instruction}
    (h : s.plan position (before ++ inst :: after) = ⟨ds, t, none⟩) :
    ∃ ds₁ middle d next ds₂, s.plan position before = ⟨ds₁, middle, none⟩ ∧
      middle.step (position + before.length) inst = .ok (d, next) ∧
      next.plan (position + before.length + 1) after = ⟨ds₂, t, none⟩ ∧ ds = ds₁ ++ d :: ds₂ := by
  obtain ⟨ds₁, middle, ds', hbefore, hrest, rfl⟩ := plan_append_eq h
  obtain ⟨d, next, ds₂, hstep, hafter, rfl⟩ := plan_cons_eq hrest
  exact ⟨ds₁, middle, d, next, ds₂, hbefore, hstep, hafter, rfl⟩

end Parts

/-! ## Consumers -/

/-- A consumer that never stops. -/
def Tireless {σ : Type} (consume : Instruction → σ → ForInStep σ) : Prop :=
  ∀ inst state, ∃ next, consume inst state = .yield next

theorem collect_tireless : Tireless collect := fun _ _ => ⟨_, rfl⟩

theorem Tireless.deliver {σ : Type} {consume : Instruction → σ → ForInStep σ}
    (hconsume : Tireless consume) (d : Decision) (inst : Instruction) (state : σ) :
    ∃ next, deliver consume d inst state = .yield next := by
  have hpadding : ∀ count state, ∃ next,
      deliverPadding consume d.comment count state = .yield next := by
    intro count
    induction count with
    | zero => exact fun state => ⟨state, rfl⟩
    | succ count ih =>
        intro state
        obtain ⟨next, hnext⟩ := hconsume (.pad d.comment) state
        obtain ⟨last, hlast⟩ := ih next
        exact ⟨last, by simp only [deliverPadding, hnext, hlast]⟩
  obtain ⟨middle, hmiddle⟩ := hpadding d.padding.toNatClampNeg state
  obtain ⟨next, hnext⟩ := hconsume inst middle
  exact ⟨next, by simp only [Scheduler.deliver, hmiddle, hnext]⟩

/-- A pass whose consumer never stops ends where the plan ends. -/
theorem proceed_of_tireless {σ : Type} {consume : Instruction → σ → ForInStep σ}
    (hconsume : Tireless consume)
    (report : Nat → Instruction → Decision → Scheduler → List String) (stream : List Instruction)
    (pass : Pass σ) (hpass : pass.failure = none) :
    (proceed report consume pass stream).scheduler =
        (pass.scheduler.plan pass.pulled stream).scheduler ∧
      (proceed report consume pass stream).failure =
        (pass.scheduler.plan pass.pulled stream).failure := by
  induction stream generalizing pass with
  | nil => exact ⟨rfl, hpass⟩
  | cons inst rest ih =>
      unfold proceed plan
      cases hstep : pass.scheduler.step pass.pulled inst with
      | error e => exact ⟨rfl, rfl⟩
      | ok result =>
          obtain ⟨d, next⟩ := result
          obtain ⟨state, hstate⟩ := hconsume.deliver d inst pass.state
          simp only [hstate]
          exact ih _ hpass

/-- Collecting what is handed out for an instruction appends it. -/
theorem deliver_collect (d : Decision) (inst : Instruction) (out : Array Instruction) :
    deliver collect d inst out = .yield (out ++ (d.emit inst).toArray) := by
  have hpadding : ∀ count out, deliverPadding collect d.comment count out =
      .yield (out ++ (List.replicate count (Instruction.pad d.comment)).toArray) := by
    intro count
    induction count with
    | zero => intro out; simp [deliverPadding]
    | succ count ih =>
        intro out
        simp only [deliverPadding, collect, ih]
        congr 1
        apply Array.ext'
        simp [List.replicate_succ]
  simp only [deliver, hpadding, collect]
  congr 1
  apply Array.ext'
  simp [Decision.emit, Decision.fill, Decision.pads]

theorem proceed_collect (report : Nat → Instruction → Decision → Scheduler → List String)
    (stream : List Instruction) (pass : Pass (Array Instruction)) :
    (proceed report collect pass stream).state.toList =
      pass.state.toList ++ emitted (pass.scheduler.plan pass.pulled stream).decisions stream := by
  induction stream generalizing pass with
  | nil => simp [proceed, plan]
  | cons inst rest ih =>
      unfold proceed plan
      cases hstep : pass.scheduler.step pass.pulled inst with
      | error e => simp
      | ok result =>
          obtain ⟨d, next⟩ := result
          simp only [deliver_collect, ih, emitted_cons]
          simp

/-- Where a pass of a fresh scheduler ends is decided by its plan. -/
theorem run_of_tireless {σ : Type} {consume : Instruction → σ → ForInStep σ}
    (hconsume : Tireless consume) (s : Scheduler) (hs : s.consumed = false)
    (stream : List Instruction) (init : σ) :
    (s.run stream init consume).scheduler = (s.started.plan 0 stream).scheduler ∧
      (s.run stream init consume).failure = (s.started.plan 0 stream).failure := by
  simp only [run, runReporting, hs]
  exact proceed_of_tireless hconsume _ stream _ rfl

theorem run_collect (s : Scheduler) (hs : s.consumed = false) (stream : List Instruction) :
    (s.run stream #[] collect).state.toList = emitted (s.decisions stream) stream := by
  simp only [run, runReporting, hs]
  exact proceed_collect _ stream { scheduler := s.started, state := #[] }

/-- Scheduling a whole stream emits the decisions of its plan, or fails as the plan does. -/
theorem scheduleAll_eq (s : Scheduler) (hs : s.consumed = false) (stream : List Instruction) :
    s.scheduleAll stream =
      (match (s.started.plan 0 stream).failure with
        | some e => .error e
        | none => .ok (emitted (s.decisions stream) stream),
        (s.started.plan 0 stream).scheduler) := by
  have hpass := run_of_tireless collect_tireless s hs stream #[]
  unfold scheduleAll
  simp only [hpass]
  cases (s.started.plan 0 stream).failure with
  | some e => rfl
  | none => rw [run_collect s hs]

theorem scheduleAll_eq_ok {s : Scheduler} (hs : s.consumed = false) {stream out : List Instruction}
    (h : (s.scheduleAll stream).1 = .ok out) :
    (∃ t, s.started.plan 0 stream = ⟨s.decisions stream, t, none⟩) ∧
      out = emitted (s.decisions stream) stream := by
  rw [scheduleAll_eq s hs] at h
  cases hfailure : (s.started.plan 0 stream).failure with
  | some e => simp [hfailure] at h
  | none =>
      simp only [hfailure, Except.ok.injEq] at h
      exact ⟨⟨(s.started.plan 0 stream).scheduler, by rw [decisions, ← hfailure]⟩, h.symm⟩

/-! ## A stream to try -/

/-- Two matrix instructions that write the same registers, and a vector instruction that reads
them. -/
def overwrittenResult : List Instruction :=
  let v (index count : Int64) : Register := ⟨.vector, index, count⟩
  [.mfma "" 4 (v 0 4) (v 4 2) (v 6 2) (v 8 4), .mfma "" 8 (v 0 4) (v 4 2) (v 6 2) (v 8 4),
    .valu "" (v 20 1) [v 0 1]]

end Scheduler

end Interlock
