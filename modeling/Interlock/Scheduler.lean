import Interlock.Catalogue
import Interlock.Monitor

/-! # The scheduler

A scheduler drives one instruction stream through a monitor for every rule that its target requires,
and puts in front of each instruction the largest padding that any of them asks for. It serves one
stream: whatever the consumer of the padded stream does, the scheduler is used up once the stream
was started.

The padded stream is produced on demand. A consumer is a function that takes an instruction and its
own state and says whether it goes on; an input instruction is pulled only when everything before it
was delivered.

The account of a pass credits padding to rules. It lists each rule once, in ascending order, so that
two accounts with the same credits are equal.
-/

namespace Interlock

/-! ## Tallies -/

/-- Credits by name, ascending by name. -/
structure Tally where
  credits : List (String × Int64) := []
deriving DecidableEq, Repr

namespace Tally

/-- Adds `n` to the credit of `name` in ascending credits. -/
def addCredit (name : String) (n : Int64) : List (String × Int64) → List (String × Int64)
  | [] => [(name, n)]
  | (key, m) :: rest =>
    if name < key then (name, n) :: (key, m) :: rest
    else if name = key then (key, m + n) :: rest
    else (key, m) :: addCredit name n rest

/-- Adds `n` to the credit of `name`. -/
def add (t : Tally) (name : String) (n : Int64) : Tally :=
  ⟨addCredit name n t.credits⟩

/-- The credit of a name, zero if it has none. -/
def get (t : Tally) (name : String) : Int64 :=
  (t.credits.lookup name).getD 0

/-- The tally of some credits; a name that comes again has its credits added. -/
def ofCredits (credits : List (String × Int64)) : Tally :=
  credits.foldl (fun t (name, n) => t.add name n) {}

end Tally

/-! ## Accounts and errors -/

/-- The account of a scheduling pass. -/
structure Stats where
  /-- Input instructions scheduled. -/
  instructions : Int64 := 0
  /-- Input instructions that needed padding. -/
  hazards : Int64 := 0
  /-- Wait states inserted. -/
  padding : Int64 := 0
  /-- Padding credited to the rules that required it. Rules that tie are all credited. -/
  byRule : Tally := {}
deriving DecidableEq, Repr

/-- Why a scheduler cannot go on at an instruction. -/
inductive StepFailure where
  | malformed (defect : InstructionDefect)
  | rejected (error : RuleError)
deriving DecidableEq, Repr

/-- The wording of a step failure. -/
def StepFailure.message : StepFailure → String
  | .malformed defect => defect.message ++ ": " ++ malformedText
  | .rejected error => error.message

/-- Why a padded stream ends early. -/
inductive ScheduleError where
  /-- The scheduler already served a stream. -/
  | consumed
  /-- The instruction at an input position cannot be scheduled. The rule is the one that failed, and
  empty when the instruction itself is at fault. -/
  | failed (position : Nat) (inst : Instruction) (rule : String) (failure : StepFailure)
deriving DecidableEq, Repr

/-- The wording of a schedule error. -/
def ScheduleError.message : ScheduleError → String
  | .consumed => "registry already scheduled a stream"
  | .failed position inst rule failure =>
    "instruction " ++ toString position ++ " (" ++ inst.name.shown ++ "): " ++
      (if rule = "" then "" else "rule " ++ rule ++ ": ") ++ failure.message

/-! ## Scheduling -/

/-- The rules of one target at work on one stream. -/
structure Scheduler where
  name : String := ""
  target : Target := {}
  monitors : List Monitor := []
  consumed : Bool := false
  stats : Stats := {}

/-- What a scheduler decides about one input instruction: how many wait states go in front of it,
and which rules asked for that many. -/
structure Decision where
  padding : Int64 := 0
  winners : List Rule := []

namespace Decision

/-- Lets one more rule ask for padding. -/
def consider (d : Decision) (rule : Rule) (nops : Int64) : Decision :=
  if d.padding < nops then ⟨nops, [rule]⟩
  else if nops = d.padding ∧ 0 < nops then { d with winners := d.winners ++ [rule] }
  else d

/-- The members of a list at their first occurrence. -/
def distinct (texts : List String) : List String :=
  texts.foldl (fun seen t => if t ∈ seen then seen else seen ++ [t]) []

/-- The comment of the padding: that of the winner, or all comments of the winners in ascending
order. -/
def comment (d : Decision) : String :=
  match distinct (d.winners.map (·.comment)) with
  | [comment] => comment
  | comments => "Wait State Hazards: " ++ ", ".intercalate (Catalogue.sortNames comments)

end Decision

/-- Adds one scheduled instruction to the account. -/
def Stats.record (s : Stats) (d : Decision) : Stats :=
  if d.padding = 0 then { s with instructions := s.instructions + 1 }
  else
    { instructions := s.instructions + 1
      hazards := s.hazards + 1
      padding := s.padding + d.padding
      byRule := d.winners.foldl (fun t r => t.add r.name d.padding) s.byRule }

namespace Scheduler

/-- A scheduler for the rules of `rules` that the target requires, less the disabled ones. -/
def new (target : Target) (rules : List Rule := Catalogue.rules) (disabled : List String := [])
    (name : String := "") : Scheduler where
  name
  target
  monitors :=
    (rules.filter fun r => r.isRequired target && !disabled.contains r.name).map ({ rule := · })

/-- The active rules. -/
def rules (s : Scheduler) : List Rule :=
  s.monitors.map (·.rule)

/-- Asks every monitor for the padding of `inst`, continuing from a decision. -/
def decide (inst : Instruction) : Decision → List Monitor → Except (String × RuleError) Decision
  | d, [] => .ok d
  | d, m :: rest =>
    match m.peek inst with
    | .error e => .error (m.rule.name, e)
    | .ok nops => decide inst (d.consider m.rule nops) rest

/-- Commits `inst` to every monitor. -/
def commitAll (inst : Instruction) (padding : Int64) :
    List Monitor → Except (String × RuleError) (List Monitor)
  | [] => .ok []
  | m :: rest =>
    match m.commit inst padding with
    | .error e => .error (m.rule.name, e)
    | .ok m =>
      match commitAll inst padding rest with
      | .error e => .error e
      | .ok rest => .ok (m :: rest)

/-- Schedules one input instruction. Without active rules nothing is asked of it. When a commit
fails, the monitors in front of it have committed the instruction already. No scheduler is returned
then: one that met an error is used up and never asks its monitors again. -/
def step (s : Scheduler) (position : Nat) (inst : Instruction) :
    Except ScheduleError (Decision × Scheduler) :=
  if s.monitors.isEmpty then .ok ({}, { s with stats := s.stats.record {} })
  else
    match inst.defect? with
    | some defect => .error (.failed position inst "" (.malformed defect))
    | none =>
      match decide inst {} s.monitors with
      | .error (rule, e) => .error (.failed position inst rule (.rejected e))
      | .ok d =>
        match commitAll inst d.padding s.monitors with
        | .error (rule, e) => .error (.failed position inst rule (.rejected e))
        | .ok monitors => .ok (d, { s with monitors, stats := s.stats.record d })

/-- Where a pass over the padded stream stands: the scheduler, the consumer's state, the number of
input instructions pulled, the error if one was met, and what the steps had to report. -/
structure Pass (σ : Type) where
  scheduler : Scheduler
  state : σ
  pulled : Nat := 0
  failure : Option ScheduleError := none
  log : Array String := #[]

/-- Hands a number of padding instructions to the consumer, as long as it goes on. -/
def deliverPadding {σ : Type} (consume : Instruction → σ → ForInStep σ) (comment : String) :
    Nat → σ → ForInStep σ
  | 0, state => .yield state
  | n + 1, state =>
    match consume (.pad comment) state with
    | .done state => .done state
    | .yield state => deliverPadding consume comment n state

/-- Hands the padding of an instruction and then the instruction to the consumer. -/
def deliver {σ : Type} (consume : Instruction → σ → ForInStep σ) (d : Decision)
    (inst : Instruction) (state : σ) : ForInStep σ :=
  match deliverPadding consume d.comment d.padding.toNatClampNeg state with
  | .done state => .done state
  | .yield state => consume inst state

/-- Continues a pass over the rest of the input until the input ends, a step fails, or the consumer
stops. `report` says what each step has to log. -/
def proceed {σ : Type} (report : Nat → Instruction → Decision → Scheduler → List String)
    (consume : Instruction → σ → ForInStep σ) : Pass σ → List Instruction → Pass σ
  | pass, [] => pass
  | pass, inst :: rest =>
    match pass.scheduler.step pass.pulled inst with
    | .error e => { pass with pulled := pass.pulled + 1, failure := some e }
    | .ok (d, scheduler) =>
      let log := pass.log ++ report pass.pulled inst d scheduler
      match deliver consume d inst pass.state with
      | .done state => { pass with scheduler, state, pulled := pass.pulled + 1, log }
      | .yield state =>
        proceed report consume { pass with scheduler, state, pulled := pass.pulled + 1, log } rest

/-- Runs a consumer over the padded stream. A scheduler that already served a stream pulls nothing
and only reports that. -/
def runReporting {σ : Type} (report : Nat → Instruction → Decision → Scheduler → List String)
    (s : Scheduler) (stream : List Instruction) (init : σ)
    (consume : Instruction → σ → ForInStep σ) : Pass σ :=
  if s.consumed then { scheduler := s, state := init, failure := some .consumed }
  else proceed report consume { scheduler := { s with consumed := true }, state := init } stream

/-- Runs a consumer over the padded stream without a log. -/
def run {σ : Type} (s : Scheduler) (stream : List Instruction) (init : σ)
    (consume : Instruction → σ → ForInStep σ) : Pass σ :=
  s.runReporting (fun _ _ _ _ => []) stream init consume

/-- The consumer that collects everything. -/
def collect (inst : Instruction) (out : Array Instruction) : ForInStep (Array Instruction) :=
  .yield (out.push inst)

/-- The consumer that stops with its `limit`-th instruction. -/
def collectUpTo (limit : Nat) (inst : Instruction) (out : Array Instruction) :
    ForInStep (Array Instruction) :=
  if limit ≤ out.size + 1 then .done (out.push inst) else .yield (out.push inst)

/-- The whole padded stream, or the error that ends it. -/
def scheduleAll (s : Scheduler) (stream : List Instruction) :
    Except ScheduleError (List Instruction) × Scheduler :=
  let pass := s.run stream #[] collect
  match pass.failure with
  | some e => (.error e, pass.scheduler)
  | none => (.ok pass.state.toList, pass.scheduler)

/-- The name of a scheduler in its log. -/
def label (s : Scheduler) : String :=
  if s.name = "" then "hazard" else s.name

end Scheduler

end Interlock
