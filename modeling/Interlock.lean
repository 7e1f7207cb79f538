import Interlock.Text.Folding
import Interlock.Number.Integer
import Interlock.Instruction
import Interlock.Target
import Interlock.Catalogue
import Interlock.Monitor.Residue
import Interlock.Scheduler
import Interlock.Scheduler.Log
import Interlock.Cost
import Interlock.Report
import Interlock.Number.Shortest
import Interlock.Batch
import Interlock.Number.FloatLiteral
import Interlock.Kernel.Document
import Interlock.Config.Document
import Interlock.Main
import Interlock.Proofs.LatencyTable
import Interlock.Proofs.Register.Sameness
import Interlock.Proofs.Rule.Sound
import Interlock.Proofs.Catalogue.Sound
import Interlock.Proofs.Window
import Interlock.Proofs.Monitor.Commit
import Interlock.Proofs.Monitor.History
import Interlock.Proofs.Monitor.Requirement
import Interlock.Proofs.Scheduler.History
import Interlock.Proofs.Scheduler.Separation
import Interlock.Proofs.Monitor.Rest
import Interlock.Proofs.Scheduler.Failure
import Interlock.Proofs.Scheduler.Idempotence
import Interlock.Proofs.Scheduler.Minimality
import Interlock.Proofs.Scheduler.Consumption
import Interlock.Proofs.Scheduler.Decision
import Interlock.Proofs.Scheduler.Order
import Interlock.Proofs.Scheduler.Account
import Interlock.Batch.Pool
import Interlock.Proofs.Compilation
import Interlock.Proofs.Batch.Agreement
import Interlock.Proofs.Number.Decimal
import Interlock.Proofs.Register.Spelling
import Interlock.Proofs.Target
import Interlock.Proofs.Kernel.Document
import Interlock.Proofs.Scheduler.Comparison
import Interlock.Proofs.Monitor.Replacement
import Interlock.Proofs.Monitor.Rejection
import Interlock.Proofs.Monitor.Ages
import Interlock.Proofs.Monitor.Waiting
import Interlock.Proofs.Monitor.Policy
import Interlock.Proofs.Scheduler.Policy
import Interlock.Proofs.Register.Grammar
import Interlock.Proofs.Register.Width
import Interlock.Proofs.Scheduler.Insertion
import Interlock.Proofs.Catalogue.Generations
import Interlock.Proofs.Scheduler.Generations
import Interlock.Proofs.Register.Overlap
import Interlock.Proofs.Target.Features
import Interlock.Proofs.Benchmark.Loop
import Interlock.Proofs.Benchmark.Documented
import Interlock.Proofs.Kernel.Obstruction
import Interlock.Proofs.CommandLine.ExitCode
