import Interlock.CommandLine.Outcome

/-! # Front ends

A front end knows commands and flags, reads command lines, and runs a program as they ask. It may
know more flags than those that matter to the program, and have commands of its own. What the
program relies on is stated here; which command lines a front end understands is its own affair.

A command line is read as a request: the flags that all commands share, a task with its own flags,
and operands. The request becomes an invocation if the task takes as many operands.
-/

namespace Interlock.CommandLine

/-! ## Requests -/

/-- The flags that all commands share. -/
structure SharedFlags where
  /-- The file with the settings; empty for the defaults. -/
  config : String := ""
  /-- The target that was asked for. -/
  target : Option String := none
  verbosity : Int := 0
deriving DecidableEq, Repr

/-- What to do, and the flags that are for nothing else. -/
inductive Task where
  /-- Pads one kernel and prints it, with statistics if `stats` is set. The padded kernel is written
  to `output` unless that is empty. -/
  | schedule (stats : Bool) (output : String)
  /-- Lists the rules with their state on the target, or the active rules of all targets. -/
  | rules (all : Bool)
  /-- Pads many kernels and prints a line on each. -/
  | batch (workers : Option Int64)
  /-- Pads the standard benchmarks and compares the padding. Profiles go to files with a name. -/
  | bench (csv json verbose : Bool) (cpuProfile memProfile : String)
  /-- A task of the front end itself, which prints a text. If it is `strict`, the text has to get
  through. -/
  | own (text : String) (strict : Bool)
  /-- Shows help, whatever the settings are. -/
  | help (text : String)
deriving DecidableEq, Repr

/-- The numbers of operands that a task takes. Those of the front end itself are its own affair. -/
def Task.Takes : Task → Nat → Prop
  | .schedule .., n => n = 1
  | .batch _, n => 1 ≤ n
  | .rules _, n | .bench .., n => n = 0
  | .own .., _ | .help _, _ => True

instance (task : Task) (n : Nat) : Decidable (task.Takes n) :=
  match task with
  | .schedule .. => inferInstanceAs (Decidable (n = 1))
  | .batch _ => inferInstanceAs (Decidable (1 ≤ n))
  | .rules _ | .bench .. => inferInstanceAs (Decidable (n = 0))
  | .own .. | .help _ => inferInstanceAs (Decidable True)

/-- What a command line asks for. -/
structure Request where
  flags : SharedFlags := {}
  task : Task
  operands : List String := []
deriving DecidableEq, Repr

/-- A request that can be carried out. -/
structure Invocation extends Request where
  takes : task.Takes operands.length

namespace Invocation

/-- The paths of the kernels that an invocation works on. -/
def paths (i : Invocation) : List String :=
  match i.task with
  | .schedule .. | .batch _ => i.operands
  | _ => []

/-- The path of the kernel, for a task that takes one. -/
def path (i : Invocation) : String :=
  i.operands.headD ""

end Invocation

/-! ## Running a program -/

/-- What a program hands to a front end. -/
structure Program (m : Type → Type) where
  /-- Comes before every command, and finds its settings. -/
  prepare : SharedFlags → m (Except Failure Config)
  /-- Carries out a command. -/
  perform : Config → Invocation → m Outcome
  /-- Prints a text of the front end, which has to get through if it is strict. -/
  display : (text : String) → (strict : Bool) → m Outcome

/-- A front end: how it reads a command line, and how it runs a program for one. -/
structure FrontEnd (m : Type → Type) where
  /-- The request, or the message of an error: there is no such command or flag, or a flag lacks a
  value or has one that is not of its kind. -/
  read : List String → Except String Request
  execute : Program m → List String → m Outcome

/-- How a front end runs a program for a command line. This leaves out the command lines that send
the log to where it cannot be written; a front end may well end the program for that. -/
structure FrontEnd.Documented {m : Type → Type} [Monad m] (frontEnd : FrontEnd m)
    (arguments : List String) : Prop where
  /-- A command line that cannot be read ends in that error, and nothing is run. -/
  unread {message : String} (hread : frontEnd.read arguments = .error message) (p : Program m) :
    frontEnd.execute p arguments = pure (.fail (.plain message))
  /-- So does one with a number of operands that the task does not take. -/
  miscounted {r : Request} (hread : frontEnd.read arguments = .ok r)
    (hcount : ¬ r.task.Takes r.operands.length) (p : Program m) :
    ∃ message, frontEnd.execute p arguments = pure (.fail (.plain message))
  /-- Help is shown, and nothing is run. -/
  help {i : Invocation} (hread : frontEnd.read arguments = .ok i.toRequest) {text : String}
    (htask : i.task = .help text) (p : Program m) :
    frontEnd.execute p arguments = p.display text false
  /-- What comes before every command comes first, and if it fails that is all. -/
  command {i : Invocation} (hread : frontEnd.read arguments = .ok i.toRequest)
    (htask : ∀ text, i.task ≠ .help text) (p : Program m) :
    frontEnd.execute p arguments = do
      match ← p.prepare i.flags with
      | .error f => return .fail f
      | .ok c => p.perform c i

end Interlock.CommandLine
