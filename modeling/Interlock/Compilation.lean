import Interlock.Config
import Interlock.Cost
import Interlock.Instruction
import Interlock.Scheduler.Log

/-! # Compilations

A compilation schedules one kernel for one target. It asks whether it is cancelled before it starts
and after every 1024th instruction of the padded stream.
-/

namespace Interlock

/-- Answers to the question whether the work was cancelled, by how often it was asked before. -/
abbrev Cancellation := Nat → Bool

namespace Cancellation

/-- Work that is never cancelled. -/
def never : Cancellation := fun _ => false

/-- Work that is cancelled after `n` questions. -/
def after (n : Nat) : Cancellation := fun asked => n ≤ asked

end Cancellation

/-- The wording of a cancellation. -/
def cancelledText : String := "context canceled"

/-- Why a kernel was not compiled. -/
inductive CompileError where
  | target (kernel : String) (error : TargetError)
  | cancelled (kernel : String)
  | schedule (kernel : String) (error : ScheduleError)
deriving DecidableEq, Repr

/-- The wording of a compile error. -/
def CompileError.message : CompileError → String
  | .target kernel error => "kernel " ++ kernel ++ ": " ++ error.message
  | .cancelled kernel => "kernel " ++ kernel ++ ": " ++ cancelledText
  | .schedule kernel error => "kernel " ++ kernel ++ ": " ++ error.message

/-- One kernel being scheduled for one target. -/
structure Compilation where
  /-- Tells compilations apart in the log. -/
  id : String
  name : RawText
  target : Target
  scheduler : Scheduler
  clock : Clock

/-- A scheduled kernel. -/
structure CompiledKernel where
  name : RawText
  target : Target
  instructions : List Instruction
  stats : Stats
  /-- Nanoseconds that the padding takes. -/
  paddingTime : Int64

/-- The padded kernel, for the target that it was scheduled for. -/
def CompiledKernel.padded (k : CompiledKernel) : Kernel where
  name := k.name
  target := k.target.text
  instructions := k.instructions

namespace Compilation

/-- Resolves the target of a kernel and chooses its rules. The kernel's own target, if it has one,
takes precedence over the configured one. -/
def new (config : Config) (kernel : Kernel) (id : String) : Except CompileError Compilation :=
  match Target.parse (if kernel.target = "" then config.target else kernel.target) with
  | .error e => .error (.target kernel.name.shown e)
  | .ok target => .ok
    { id
      name := kernel.name
      target
      scheduler := .new target Catalogue.rules config.disabledNames (kernel.name.shown ++ "/" ++ id)
      clock := ⟨config.clockMHz⟩ }

/-- What the start of a compilation reports. -/
def openingLog (c : Compilation) (verbosity : Int) (config : Config) (kernel : Kernel) :
    List String :=
  c.scheduler.openingLog verbosity Catalogue.rules config.disabledNames ++
    logAt 1 verbosity fun _ =>
      c.scheduler.label ++ ": compiling " ++ toString kernel.instructions.length ++
        " instructions for " ++ c.target.text ++ " (" ++ c.target.family.text ++ ")"

/-- The nanoseconds that the padding inserted so far takes. -/
def paddingTime (c : Compilation) : Int64 :=
  c.clock.duration c.scheduler.stats.padding

/-- How many instructions are delivered between two questions about cancellation. -/
def checkEvery : Nat := 1024

/-- What a run has collected, and how often it asked about cancellation. -/
structure Progress where
  out : Array Instruction := #[]
  asked : Nat := 0
  cancelled : Bool := false

/-- Collects one instruction and asks about cancellation when it is due. -/
def advance (cancellation : Cancellation) (inst : Instruction) (p : Progress) :
    ForInStep Progress :=
  let out := p.out.push inst
  if out.size % checkEvery = 0 then
    let cancelled := cancellation p.asked
    let p := { out, asked := p.asked + 1, cancelled }
    if cancelled then .done p else .yield p
  else .yield { p with out }

/-- The report on a completed run. -/
def summary (c : Compilation) : String :=
  let stats := c.scheduler.stats
  c.scheduler.label ++ ": " ++ Number.text stats.instructions ++ " instructions, " ++
    Number.text stats.hazards ++ " hazards, " ++ Number.text stats.padding ++
    " wait states inserted (" ++ Text.durationText c.paddingTime ++ ")"

/-- Schedules a complete stream. The result comes with the compilation after the run and with what
the run reported. -/
def run (c : Compilation) (verbosity : Int) (cancellation : Cancellation)
    (stream : List Instruction) :
    Except CompileError CompiledKernel × Compilation × List String :=
  if cancellation 0 then (.error (.cancelled c.name.shown), c, [])
  else
    let pass := c.scheduler.runReporting (Scheduler.stepLog verbosity) stream { asked := 1 }
      (advance cancellation)
    let c := { c with scheduler := pass.scheduler }
    let log := pass.log.toList
    if pass.state.cancelled then (.error (.cancelled c.name.shown), c, log)
    else match pass.failure with
      | some e => (.error (.schedule c.name.shown e), c, log)
      | none =>
        let result : CompiledKernel :=
          { name := c.name
            target := c.target
            instructions := pass.state.out.toList
            stats := c.scheduler.stats
            paddingTime := c.paddingTime }
        (.ok result, c, log ++ logAt 1 verbosity fun _ => c.summary)

end Compilation

/-- Schedules one kernel with a compilation of its own. -/
def compile (verbosity : Int) (cancellation : Cancellation) (id : String) (config : Config)
    (kernel : Kernel) : Except CompileError CompiledKernel × List String :=
  match Compilation.new config kernel id with
  | .error e => (.error e, [])
  | .ok c =>
    let (result, _, log) := c.run verbosity cancellation kernel.instructions
    (result, c.openingLog verbosity config kernel ++ log)

end Interlock
