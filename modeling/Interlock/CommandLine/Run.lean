import Interlock.CommandLine.Outcome
import Interlock.CommandLine.Reader
import Interlock.Report

/-! # Running commands

Commands reach files, clocks and the standard output only through a host, so that they run on a tree
of files as well as on a machine. They are handed to a front end as one program.
-/

namespace Interlock.CommandLine

/-- What commands need of the world. -/
structure Host (m : Type → Type) where
  read : (path : String) → m (Except FileFailure String)
  write : (path : String) → FileContent → m (Except FileFailure Unit)
  /-- Sends a text to the standard output. -/
  print : String → m (Except String Unit)
  /-- Starts the profile of the processor, or takes that of the heap, for a file that was made. -/
  profile : ProfileKind → m (Except String Unit)
  /-- A clock in nanoseconds. -/
  now : m Int64
  /-- Eight hexadecimal digits that tell this run from others in the log. -/
  id : m String
  /-- How kernels are kept. -/
  kernelFormat : Yaml.Format KernelDocument := KernelDocument.yaml
  /-- How settings are kept. -/
  configFormat : Yaml.Format Config := Config.yaml

/-- What a tree of files leaves open: how documents are kept in it, and why the standard output or a
profile is refused, if it is. -/
structure Surroundings where
  kernelFormat : Yaml.Format KernelDocument := KernelDocument.yaml
  configFormat : Yaml.Format Config := Config.yaml
  outputRefusal : Option String := none
  profileRefusal : ProfileKind → Option String := fun _ => none

/-- The host that works on a tree of files, where no time passes. -/
def Host.ofTree (s : Surroundings := {}) : Host (StateM FileTree) where
  read path := do return (← get).read path
  write path content := do
    match (← get).write path content with
    | .error f => return .error f
    | .ok tree => set tree; return .ok ()
  print _ := pure (s.outputRefusal.elim (.ok ()) .error)
  profile kind := pure ((s.profileRefusal kind).elim (.ok ()) .error)
  now := pure 0
  id := pure "00000000"
  kernelFormat := s.kernelFormat
  configFormat := s.configFormat

/-! ## Inputs -/

/-- Checks settings. -/
def checked (c : Config) : Except SettingsError Config :=
  match c.defect? with
  | some e => .error (.invalid e)
  | none => .ok c

/-- Loads settings from a file; without one they are the defaults. -/
def loadSettings {m : Type → Type} [Monad m] (host : Host m) (path : String) :
    m (Except SettingsError Config) := do
  if path = "" then return .ok {}
  else
    match ← host.read path with
    | .error f => return .error (.unreadable f)
    | .ok text =>
      match host.configFormat.read text with
      | .error e => return .error (.document e)
      | .ok c => return .ok c

/-- The settings that the shared flags ask for. A target that was asked for replaces the configured
one. -/
def settings {m : Type → Type} [Monad m] (host : Host m) (flags : SharedFlags) :
    m (Except SettingsError Config) := do
  match ← loadSettings host flags.config with
  | .error e => return .error e
  | .ok c => return checked { c with target := (flags.target.map RawText.unicode).getD c.target }

/-- The settings of a batch. A number of workers that was asked for is checked like a configured
one. -/
def batchSettings (c : Config) (workers : Option Int64) : Except SettingsError Config :=
  match workers with
  | none => .ok c
  | some workers => checked { c with workers }

/-- The name of a kernel that has none of its own: the name of its file up to the last point. -/
def nameOfFile (path : String) : String :=
  let chars := (path.toList.reverse.dropWhile (· = '/')).takeWhile (· ≠ '/')
  let stem := (chars.dropWhile (· ≠ '.')).drop 1
  String.ofList (if chars.contains '.' then stem else chars).reverse

/-- Loads a kernel. A target that was asked for replaces its own. -/
def loadKernel {m : Type → Type} [Monad m] (host : Host m) (flags : SharedFlags) (path : String) :
    m (Except KernelFileError Kernel) := do
  match ← host.read path with
  | .error f => return .error (.unreadable f)
  | .ok text =>
    match Kernel.parse text host.kernelFormat with
    | .error e => return .error (.invalid path e)
    | .ok k =>
      let target := flags.target.getD ""
      return .ok
        { k with
          name := if k.name = "" then nameOfFile path else k.name
          target := if target = "" then k.target else target }

/-- Loads kernels one after the other, until one cannot be loaded. -/
def loadKernels {m : Type → Type} [Monad m] (host : Host m) (flags : SharedFlags) :
    List String → m (Except KernelFileError (List Kernel))
  | [] => return .ok []
  | path :: rest => do
    match ← loadKernel host flags path with
    | .error e => return .error e
    | .ok k =>
      match ← loadKernels host flags rest with
      | .error e => return .error e
      | .ok ks => return .ok (k :: ks)

/-! ## Texts -/

/-- The padded kernel as a listing. -/
def listingText (k : CompiledKernel) : String :=
  "// kernel: " ++ k.name.shown ++ "\n// target: " ++ k.target.text ++ " (" ++
    k.target.family.text ++ ")\n" ++ String.join (k.instructions.map fun inst => inst.text ++ "\n")

/-- The statistics below a listing. -/
def statsText (k : CompiledKernel) (c : Config) : String :=
  "// instructions: " ++ Number.text k.stats.instructions ++ "\n// hazards: " ++
    Number.text k.stats.hazards ++ "\n// wait states: " ++ Number.text k.stats.padding ++ " (" ++
    Text.durationText k.paddingTime ++ " at " ++ Number.floatText c.clockMHz ++ " MHz)\n" ++
    String.join (k.stats.byRule.credits.map fun (rule, n) =>
      "//   " ++ rule ++ ": " ++ Number.text n ++ "\n")

/-- The line on one kernel of a batch. -/
def batchLine (k : CompiledKernel) : String :=
  k.name.shown ++ ": " ++ k.target.text ++ ", " ++ Text.grouped k.stats.instructions ++
    " instructions, " ++ Number.text k.stats.hazards ++ " hazards, " ++
    Text.grouped k.stats.padding ++ " wait states\n"

/-- The lines on all kernels of a batch, and their sum. -/
def batchText (ks : List CompiledKernel) : String :=
  let instructions := ks.foldl (fun n k => n + k.stats.instructions) 0
  let padding := ks.foldl (fun n k => n + k.stats.padding) 0
  String.join (ks.map batchLine) ++ "total: " ++ toString ks.length ++ " kernels, " ++
    Text.grouped instructions ++ " instructions, " ++ Text.grouped padding ++ " wait states\n"

/-- The state of a rule on a target. -/
def ruleState (t : Target) (c : Config) (r : Rule) : String :=
  if !r.isRequired t then "-"
  else if c.disabledNames.contains r.name then "disabled"
  else "active"

/-- The catalogue with the state of each rule. -/
def rulesText (t : Target) (c : Config) : String :=
  "target: " ++ t.text ++ " (" ++ t.family.text ++ ")\n" ++
    String.join (Catalogue.rules.map fun r =>
      "  " ++ Text.padRight 18 r.name ++ " " ++ Text.padRight 8 (ruleState t c r) ++ " " ++
        r.comment ++ "\n")

/-- The active rules of every known target. -/
def matrixText : String :=
  String.join (Target.known.map fun t =>
    let names := (Catalogue.requiredOn t).map (·.name)
    Text.padRight 8 t.text ++ " " ++ Text.padRight 8 t.family.text ++ " " ++
      (if names.isEmpty then "-" else ", ".intercalate names) ++ "\n")

/-- The lines on targets that activate two rules for one hazard. -/
def overlapsText (overlaps : List Catalogue.Overlap) : String :=
  String.join (overlaps.map fun o =>
    "overlap: " ++ o.target.text ++ " activates " ++ ", ".intercalate o.rules ++ "\n")

/-! ## Commands -/

section Commands

variable {m : Type → Type} [Monad m] (host : Host m) (flags : SharedFlags) (c : Config)

/-- Pads one kernel. -/
def runSchedule (path : String) (stats : Bool) (output : String) : m Outcome := do
  match ← loadKernel host flags path with
  | .error e => return .fail (.kernel e)
  | .ok kernel =>
    match compile flags.verbosity .never (← host.id) c kernel with
    | (.error e, log) => return { log, failure := some (.scheduling e) }
    | (.ok k, log) =>
      let stdout := listingText k ++ (if stats then statsText k c else "")
      let _ ← host.print stdout
      if output = "" then return { stdout, log }
      else
        match ← host.write output (.text (k.padded.write host.kernelFormat)) with
        | .error f => return { stdout, log, failure := some (.output f) }
        | .ok () => return { stdout, log }

/-- Lists rules. -/
def runRules (all : Bool) : m Outcome := do
  if all then
    let overlaps := Catalogue.overlaps Target.known Catalogue.exclusiveGroups
    let stdout := matrixText ++ overlapsText overlaps
    let _ ← host.print stdout
    return {
      stdout
      failure := if overlaps.isEmpty then none else some (.overlappingRules overlaps.length) }
  else
    match Target.parse c.target with
    | .error e => return .fail (.target e)
    | .ok t =>
      let stdout := rulesText t c
      let _ ← host.print stdout
      return { stdout }

/-- Pads many kernels. -/
def runBatch (paths : List String) (workers : Option Int64) : m Outcome := do
  match batchSettings c workers with
  | .error e => return .fail (.settings e)
  | .ok c =>
    match ← loadKernels host flags paths with
    | .error e => return .fail (.kernel e)
    | .ok kernels =>
      match Batch.run flags.verbosity false (← host.id) c kernels with
      | (.error (.kernel e), log) => return { log, failure := some (.scheduling e) }
      | (.error .cancelled, log) => return { log }
      | (.ok ks, log) =>
        let stdout := batchText ks
        let _ ← host.print stdout
        return { stdout, log }

/-- Runs benchmarks one after the other and measures each. -/
def runBenchmarks : List Benchmark → m (List BenchmarkResult × List String)
  | [] => return ([], [])
  | b :: rest => do
    let start ← host.now
    let (result, log) := b.run flags.verbosity (← host.id) c
    let stop ← host.now
    let (results, more) ← runBenchmarks rest
    return ({ result with wallTime := stop - start } :: results, log ++ more)

/-- Makes the file of a profile and starts or takes the profile, if there is a path for it. -/
def recordProfile (kind : ProfileKind) (path : String) : m (Except ProfileError Unit) := do
  if path = "" then return .ok ()
  else
    match ← host.write path .profile with
    | .error f => return .error (.creating f)
    | .ok () =>
      match ← host.profile kind with
      | .error cause => return .error (.recording cause)
      | .ok () => return .ok ()

/-- How benchmarks fail: a report in JSON that does not get through, and then results that do not
match. -/
def benchFailure (json : Bool) (printed : Except String Unit) (results : List BenchmarkResult) :
    Option Failure :=
  match json, printed with
  | true, .error cause => some (.results cause)
  | _, _ =>
    let unmatched := (results.filter fun r => !r.matched).length
    if unmatched = 0 then none else some (.unmatchedBenchmarks unmatched results.length)

/-- Runs the standard benchmarks. A profile of the heap that cannot be taken is only reported. -/
def runBench (csv json verbose : Bool) (cpuProfile memProfile : String) : m Outcome := do
  if csv ∧ json then return .fail .exclusiveFormats
  else
    match ← recordProfile host .cpu cpuProfile with
    | .error e => return .fail (.profile e)
    | .ok () =>
      let (results, log) ← runBenchmarks host flags c Benchmark.standard
      let stdout :=
        if csv then Report.csv results
        else if json then Report.json results
        else Report.text verbose results
      let printed ← host.print stdout
      let warnings := match ← recordProfile host .heap memProfile with
        | .ok () => []
        | .error e => logLines (e.message .heap)
      return { stdout, log := log ++ warnings, failure := benchFailure json printed results }

/-- Prints a text, which has to get through if it is strict. -/
def display (text : String) (strict : Bool) : m Outcome := do
  match strict, ← host.print text with
  | true, .error cause => return { stdout := text, failure := some (.plain cause) }
  | _, _ => return { stdout := text }

/-- Carries out a command. -/
def Invocation.run (i : Invocation) : m Outcome :=
  match i.task with
  | .schedule stats output => runSchedule host i.flags c i.path stats output
  | .rules all => runRules host c all
  | .batch workers => runBatch host i.flags c i.operands workers
  | .bench csv json verbose cpuProfile memProfile =>
    runBench host i.flags c csv json verbose cpuProfile memProfile
  | .own text strict => display host text strict
  | .help text => display host text false

end Commands

/-- The program on a host. -/
def program {m : Type → Type} [Monad m] (host : Host m) : Program m where
  prepare flags := do
    match ← settings host flags with
    | .error e => return .error (.settings e)
    | .ok c => return .ok c
  perform c i := i.run host c
  display := display host

/-- Runs a command line on a tree of files with the standard front end. -/
def runOn (arguments : List String) (files : FileTree) : Outcome × FileTree :=
  (FrontEnd.standard.execute (program .ofTree) arguments).run files

end Interlock.CommandLine
