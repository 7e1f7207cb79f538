import Interlock.Batch
import Interlock.Config.Document
import Interlock.FileTree
import Interlock.Kernel.Document

/-! # Outcomes of a command

What ends a command early, its wording, what a command leaves behind, and the code that the program
exits with.
-/

namespace Interlock.CommandLine

/-- Why there are no settings to work with. -/
inductive SettingsError where
  | unreadable (failure : FileFailure)
  | document (error : Yaml.ReadError)
  | invalid (error : ConfigError)
deriving DecidableEq, Repr

/-- The wording of a settings error. -/
def SettingsError.message : SettingsError → String
  | .unreadable failure => "failed to read config file: " ++ failure.message
  | .document error => "failed to parse config: " ++ error.message
  | .invalid error => error.message

/-- Why there is no kernel to work with. -/
inductive KernelFileError where
  | unreadable (failure : FileFailure)
  | invalid (path : String) (error : KernelError)
deriving DecidableEq, Repr

/-- The wording of a kernel file error. -/
def KernelFileError.message : KernelFileError → String
  | .unreadable failure => "failed to read kernel file: " ++ failure.message
  | .invalid path error => path ++ ": " ++ error.message

/-- What a profile is of. -/
inductive ProfileKind where
  | cpu
  | heap
deriving DecidableEq, Repr

/-- Why there is no profile. -/
inductive ProfileError where
  | creating (failure : FileFailure)
  | recording (cause : String)
deriving DecidableEq, Repr

/-- The wording of a profile error. -/
def ProfileError.message (kind : ProfileKind) (error : ProfileError) : String :=
  match kind, error with
  | .cpu, .creating failure => "failed to create CPU profile: " ++ failure.message
  | .cpu, .recording cause => "failed to start CPU profile: " ++ cause
  | .heap, .creating failure => "failed to create memory profile: " ++ failure.message
  | .heap, .recording cause => "failed to write memory profile: " ++ cause

/-- Why a command failed. -/
inductive Failure where
  /-- An error of the front end. -/
  | plain (message : String)
  | settings (error : SettingsError)
  | kernel (error : KernelFileError)
  | scheduling (error : CompileError)
  | output (failure : FileFailure)
  | exclusiveFormats
  | profile (error : ProfileError)
  | results (cause : String)
  | target (error : TargetError)
  | overlappingRules (targets : Nat)
  | unmatchedBenchmarks (unmatched total : Nat)
deriving DecidableEq, Repr

namespace Failure

/-- The wording of a failure. -/
def message : Failure → String
  | .plain message => message
  | .settings error => "invalid configuration: " ++ error.message
  | .kernel error => "invalid kernel: " ++ error.message
  | .scheduling error => "scheduling failed: " ++ error.message
  | .output failure => "cannot write output: failed to write kernel file: " ++ failure.message
  | .exclusiveFormats => "--csv and --json are mutually exclusive"
  | .profile error => "cannot profile: " ++ error.message .cpu
  | .results cause => "cannot write results: failed to encode benchmark results: " ++ cause
  | .target error => "invalid target: " ++ error.message
  | .overlappingRules targets => toString targets ++ " target(s) activate overlapping rules"
  | .unmatchedBenchmarks unmatched total =>
    toString unmatched ++ " of " ++ toString total ++ " benchmarks did not match"

/-- The code that a failure carries: two for inputs that cannot be used, one for everything else.
An error of the front end carries none. -/
def code? : Failure → Option UInt8
  | .settings _ | .kernel _ | .output _ | .exclusiveFormats | .profile _ | .target _ => some 2
  | .scheduling _ | .results _ | .overlappingRules _ | .unmatchedBenchmarks .. => some 1
  | .plain _ => none

/-- The exit code of a failure, one if it carries none. -/
def exitCode (f : Failure) : UInt8 :=
  f.code?.getD 1

/-- The collection on which the reading of an input broke down, which is a fault of the program and
not of the input. -/
def breakdown? : Failure → Option Yaml.Collection
  | .settings (.document (.breakdown key)) => some key
  | .kernel (.invalid _ (.document (.breakdown key))) => some key
  | _ => none

end Failure

/-- What a command leaves behind, besides files. -/
structure Outcome where
  /-- What was sent to the standard output, whether or not it got through. -/
  stdout : String := ""
  log : List String := []
  failure : Option Failure := none
deriving DecidableEq, Repr

/-- The exit code of the program. -/
def Outcome.exitCode (o : Outcome) : UInt8 :=
  (o.failure.map Failure.exitCode).getD 0

/-- An outcome that is nothing but a failure. -/
def Outcome.fail (f : Failure) : Outcome :=
  { failure := some f }

end Interlock.CommandLine
