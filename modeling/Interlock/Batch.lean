import Interlock.Compilation

/-! # Batches

Independent kernels are compiled side by side. Results come in the order of the kernels; the first
failure is the failure of the batch.
-/

namespace Interlock

/-- Why a batch was not compiled. -/
inductive BatchError where
  | cancelled
  | kernel (error : CompileError)
deriving DecidableEq, Repr

/-- The wording of a batch error. -/
def BatchError.message : BatchError → String
  | .cancelled => cancelledText
  | .kernel error => error.message

namespace Batch

/-- Compiles kernels in order, until one fails. The result comes with what was reported. -/
def compileAll (verbosity : Int) (id : String) (config : Config) :
    List Kernel → Except CompileError (List CompiledKernel) × List String
  | [] => (.ok [], [])
  | kernel :: rest =>
    match compile verbosity .never id config kernel with
    | (.error e, log) => (.error e, log)
    | (.ok result, log) =>
      match compileAll verbosity id config rest with
      | (.error e, more) => (.error e, log ++ more)
      | (.ok results, more) => (.ok (result :: results), log ++ more)

/-- Compiles a batch. A batch that was cancelled beforehand fails with its first kernel. -/
def run (verbosity : Int) (cancelled : Bool) (id : String) (config : Config)
    (kernels : List Kernel) : Except BatchError (List CompiledKernel) × List String :=
  if cancelled ∧ kernels ≠ [] then (.error .cancelled, [])
  else
    match compileAll verbosity id config kernels with
    | (.error e, log) => (.error (.kernel e), log)
    | (.ok results, log) =>
      (.ok results, log ++ logAt 1 verbosity fun _ =>
        "batch: scheduled " ++ toString kernels.length ++ " kernels with " ++
          Number.text config.workers ++ " workers")

end Batch

end Interlock
