import Interlock.Batch

/-! # The workers of a batch

Each kernel of a batch has a worker of its own. Workers are launched in the order of the kernels and
hold one of a limited number of slots until they leave. In between they take their steps in any
order: a schedule is a list of turns, and any schedule that respects the slots is possible.

The first worker to fail records its error for the whole batch and only then cancels the others.
Nothing else cancels a batch once it runs.
-/

namespace Interlock.Batch

/-- What a batch has to compile, and what its compilations are called in the log. -/
structure Workload where
  verbosity : Int := 0
  ids : Nat → String := fun _ => ""
  config : Config := {}
  kernels : List Kernel := []

/-- How far a worker has come. -/
inductive Phase where
  /-- It has a slot and is about to ask whether the batch is cancelled. -/
  | launched
  | compiling
  | compiled (result : CompiledKernel)
  /-- Its result is in place and is about to be reported. -/
  | stored (result : CompiledKernel)
  /-- It is about to record its error, if no other worker did so before. -/
  | failed (error : BatchError)
  /-- It recorded its error and is about to cancel the batch. -/
  | recorded
  /-- It is about to give back its slot. -/
  | returning
  | finished

namespace Phase

def isFinished : Phase → Bool
  | finished => true
  | _ => false

/-- What a compilation leads to. -/
def ofCompiled : Except CompileError CompiledKernel → Phase
  | .ok result => compiled result
  | .error e => failed (.kernel e)

end Phase

/-- A batch at work. -/
structure Pool where
  /-- The workers launched so far, in the order of their kernels. -/
  workers : List Phase := []
  /-- A place for the result of each kernel. -/
  results : List (Option CompiledKernel) := []
  /-- The results reported so far, each with the position of its kernel. -/
  reported : List (Nat × CompiledKernel) := []
  error : Option BatchError := none
  cancelled : Bool := false

/-- Who moves next. A worker that compiles may see the batch cancelled from its `stop`-th question
on. -/
inductive Turn where
  | launch
  | work (position : Nat) (stop : Option Nat := none)

/-- The answers that a compilation gets. Cancellation is never taken back, so one number tells them
all. -/
def answers : Option Nat → Cancellation
  | none => .never
  | some n => .after n

namespace Pool

/-- The pool of a batch that was not begun. -/
def start (w : Workload) : Pool where
  results := List.replicate w.kernels.length none

/-- The number of slots in use. -/
def active (s : Pool) : Nat :=
  s.workers.countP (!·.isFinished)

/-- Whether another worker may be launched. A negative number of workers is no limit. -/
def hasSlot (w : Workload) (s : Pool) : Bool :=
  w.config.workers < 0 || s.active < w.config.workers.toInt

/-- Launches the worker of the next kernel. -/
def launch (w : Workload) (s : Pool) : Option Pool :=
  if s.workers.length < w.kernels.length ∧ s.hasSlot w then
    some { s with workers := s.workers ++ [.launched] }
  else none

/-- Brings a worker to another phase. -/
def move (s : Pool) (i : Nat) (phase : Phase) : Pool :=
  { s with workers := s.workers.set i phase }

/-- The next step of the worker of the kernel at a position. -/
def work (w : Workload) (s : Pool) (i : Nat) (stop : Option Nat) : Option Pool :=
  match s.workers[i]? with
  | some .launched => some (s.move i (if s.cancelled then .failed .cancelled else .compiling))
  | some .compiling =>
    -- a compilation is not told of a cancellation that has not happened when it ends
    if stop.isNone ∨ s.cancelled then
      (w.kernels[i]?).map fun kernel =>
        s.move i (.ofCompiled (compile w.verbosity (answers stop) (w.ids i) w.config kernel).1)
    else none
  | some (.compiled result) =>
    some { s.move i (.stored result) with results := s.results.set i (some result) }
  | some (.stored result) =>
    some { s.move i .returning with reported := s.reported ++ [(i, result)] }
  | some (.failed e) =>
    match s.error with
    | none => some { s.move i .recorded with error := some e }
    -- whoever fails later waits until the batch is cancelled
    | some _ => if s.cancelled then some (s.move i .returning) else none
  | some .recorded => some { s.move i .returning with cancelled := true }
  | some .returning => some (s.move i .finished)
  | some .finished | none => none

/-- One turn, if it is possible. -/
def step (w : Workload) (s : Pool) : Turn → Option Pool
  | .launch => s.launch w
  | .work i stop => s.work w i stop

/-- A schedule, if each of its turns is possible. -/
def run (w : Workload) : Pool → List Turn → Option Pool
  | s, [] => some s
  | s, turn :: rest =>
    match s.step w turn with
    | none => none
    | some next => run w next rest

/-- Whether every kernel had its worker and every worker has left. -/
def ended (w : Workload) (s : Pool) : Bool :=
  s.workers.length = w.kernels.length && s.workers.all (·.isFinished)

/-- What the batch returns once it ended: the recorded error, or the places of the results. -/
def returned (s : Pool) : Except BatchError (List (Option CompiledKernel)) :=
  match s.error with
  | some e => .error e
  | none => .ok s.results

end Pool

end Interlock.Batch
