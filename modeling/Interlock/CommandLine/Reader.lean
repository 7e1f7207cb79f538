import Interlock.CommandLine.Flag
import Interlock.CommandLine.FrontEnd
import Interlock.Text.Folding

/-! # The standard front end

The first argument that is neither a flag nor the value of one names the command. The flags that all
commands share may stand in front of it. Besides the commands of the program there are help, a
completion script for each shell below `completion`, and the hidden commands that such a script
calls.

A mistyped name is answered with the names that are close to it: those that two edits turn into each
other, and those that start with it.
-/

namespace Interlock.CommandLine

/-! ## Closeness of names -/

/-- The distances of a text that ends with `c` from the longer and longer beginnings of another
text. `row` holds them for the text without `c`, `left` and `corner` are the distances from the
beginning before, with and without `c`. -/
def nextRow (c : UInt8) : (left corner : Nat) → List UInt8 → List Nat → List Nat
  | left, corner, t :: ts, above :: row =>
    let d := if c = t then corner else min left (min above corner) + 1
    d :: nextRow c d above ts row
  | _, _, _, _ => []

/-- The number of octets to insert, delete or replace to turn one text into the other. -/
def editDistance (s t : List UInt8) : Nat :=
  let first := (List.range t.length).map (· + 1)
  let last := s.foldl (fun (n, row) c => (n + 1, nextRow c (n + 1) n t row)) (0, first)
  (last.2.getLast?).getD last.1

/-- Whether a name is close to what was typed, in any case. -/
def isClose (typed name : String) : Bool :=
  let typed := Text.lower typed.toList
  let name := Text.lower name.toList
  let octets (text : List Char) : List UInt8 := (String.ofList text).toUTF8.toList
  editDistance (octets typed) (octets name) ≤ 2 || typed.isPrefixOf name

/-! ## Names of commands -/

/-- The shells for which there is a completion script. -/
inductive Shell where
  | bash
  | fish
  | powershell
  | zsh
deriving DecidableEq, Repr

namespace Shell

/-- The name of a shell. -/
def text : Shell → String
  | .bash => "bash"
  | .fish => "fish"
  | .powershell => "powershell"
  | .zsh => "zsh"

/-- The shell of a name. -/
def named? (name : String) : Option Shell :=
  [bash, fish, powershell, zsh].find? (·.text = name)

end Shell

/-- The names of commands. All but the first four only show texts. -/
inductive CommandName where
  | schedule
  | rules
  | batch
  | bench
  | help
  | completion
  | script (shell : Shell)
  /-- What may follow an incomplete command line, with or without descriptions. -/
  | proposals (described : Bool)
deriving DecidableEq, Repr

namespace CommandName

/-- The spelling of a command. -/
def text : CommandName → String
  | .schedule => "schedule"
  | .rules => "rules"
  | .batch => "batch"
  | .bench => "bench"
  | .help => "help"
  | .completion => "completion"
  | .script shell => "completion " ++ shell.text
  | .proposals true => "__complete"
  | .proposals false => "__completeNoDesc"

/-- The commands in the order in which they are suggested. -/
def listed : List CommandName :=
  [.schedule, .rules, .batch, .bench, .help, .completion]

/-- The commands that are not suggested. -/
def hidden : List CommandName :=
  [.proposals true, .proposals false]

/-- The command of a spelling. -/
def named? (name : String) : Option CommandName :=
  (listed ++ hidden).find? (·.text = name)

/-- The commands that are close to what was typed. Help is never suggested. -/
def suggestions (typed : String) : List String :=
  (listed.filter fun c => c ≠ .help && isClose typed c.text).map text

end CommandName

/-- The name of the program. -/
def programName : String := "waitstate"

/-! ## Flags of commands -/

/-- The flags of the logger. All but the level only decide where its lines go, how they look, and
for which source files there are more of them. -/
def loggerFlags : List Flag :=
  [{ name := "v", kind := .level, letter := some 'v' },
    { name := "add_dir_header", kind := .logSwitch },
    { name := "alsologtostderr", kind := .logSwitch },
    { name := "log_backtrace_at", kind := .place },
    { name := "log_dir", kind := .text },
    { name := "log_file", kind := .text },
    { name := "log_file_max_size", kind := .size },
    { name := "logtostderr", kind := .logSwitch },
    { name := "one_output", kind := .logSwitch },
    { name := "skip_headers", kind := .logSwitch },
    { name := "skip_log_headers", kind := .logSwitch },
    { name := "stderrthreshold", kind := .severity },
    { name := "vmodule", kind := .levels }]

/-- The flags that all commands share. -/
def sharedFlags : List Flag :=
  [{ name := "config", kind := .text }, { name := "target", kind := .text }] ++ loggerFlags

/-- The flags that ask for help; they are known once the command is. -/
def helpFlags : List Flag :=
  [{ name := "help", kind := .switch, letter := some 'h' }]

/-- The flags of a command, beyond the shared ones. -/
def CommandName.ownFlags : CommandName → List Flag
  | .schedule =>
    [{ name := "stats", kind := .switch }, { name := "output", kind := .text, letter := some 'o' }]
  | .rules => [{ name := "all", kind := .switch }]
  | .batch =>
    [{ name := "workers", kind := .word, letter := some 'j' },
      { name := "progress", kind := .switch }]
  | .bench =>
    [{ name := "csv", kind := .switch }, { name := "json", kind := .switch },
      { name := "verbose", kind := .switch }, { name := "cpuprofile", kind := .text },
      { name := "memprofile", kind := .text }]
  | .script _ => [{ name := "no-descriptions", kind := .switch }]
  | .help | .completion | .proposals _ => []

/-- The flags that may stand in a command line with a command, or in one without. -/
def flagsOf (name : Option CommandName) : List Flag :=
  sharedFlags ++ (name.map CommandName.ownFlags).getD [] ++ helpFlags

/-! ## Requests -/

/-- The commands in short. -/
def helpText : String :=
  "Usage:\n" ++
    "  waitstate schedule <kernel.yaml> [--stats] [-o FILE]\n" ++
    "  waitstate rules [--all]\n" ++
    "  waitstate batch <kernel.yaml>... [-j N] [--progress]\n" ++
    "  waitstate bench [--csv | --json] [--verbose] [--cpuprofile FILE] [--memprofile FILE]\n" ++
    "Flags of all commands: --config FILE, --target ID, -v LEVEL, and those of the logger\n"

/-- The task that a command and its flags stand for. A completion script has to get through. -/
def CommandName.task (name : CommandName) (a : Arguments) : Task :=
  if a.switch "help" then .help helpText
  else
    match name with
    | .schedule => .schedule (a.switch "stats") ((a.text? "output").getD "")
    | .rules => .rules (a.switch "all")
    | .batch => .batch (a.word? "workers")
    | .bench =>
      .bench (a.switch "csv") (a.switch "json") (a.switch "verbose")
        ((a.text? "cpuprofile").getD "") ((a.text? "memprofile").getD "")
    | .script _ => .own helpText true
    | .help | .proposals _ => .own helpText false
    | .completion => .help helpText

/-- The error for operands that a task does not take. -/
def Task.countError (task : Task) (operands : List String) : UsageError :=
  match task, operands with
  | .batch _, _ => .tooFew 1 operands.length
  | .rules _, operand :: _ => .unknownCommand operand (programName ++ " rules") []
  | .bench .., operand :: _ => .unknownCommand operand (programName ++ " bench") []
  | _, _ => .wrongCount 1 operands.length

/-- The command that is named, if any is, and the arguments that are left for it. -/
def addressee (arguments : List String) : Except UsageError (Option CommandName × List String) :=
  match bareWords sharedFlags arguments with
  | [] => .ok (none, arguments)
  | word :: _ =>
    let rest := withoutWord sharedFlags word arguments
    match CommandName.named? word with
    | none => .error (.unknownCommand word programName (CommandName.suggestions word))
    | some .completion =>
      match (bareWords sharedFlags rest).head?.bind Shell.named? with
      | none => .ok (some .completion, rest)
      | some shell => .ok (some (.script shell), withoutWord sharedFlags shell.text rest)
    | some name => .ok (some name, rest)

/-- The request for a command whose flags are read. Without a command there is only help. -/
def Request.ofArguments (name : Option CommandName) (a : Arguments) : Request where
  flags :=
    { config := (a.text? "config").getD ""
      target := a.text? "target"
      verbosity := ((a.word? "v").map Int64.toInt).getD 0 }
  task := (name.map (·.task a)).getD (.help helpText)
  operands := a.operands

/-- Reads a command line: the command, then its flags, then the operands of a completion script.
What follows a hidden command is for it alone, flags included. -/
def Request.parse (arguments : List String) : Except UsageError Request :=
  match addressee arguments with
  | .error e => .error e
  | .ok (some (.proposals described), rest) =>
    if rest = [] then .error (.tooFew 1 0)
    else .ok (.ofArguments (some (.proposals described)) { operands := rest })
  | .ok (name, rest) =>
    match readArguments (flagsOf name) none {} rest with
    | .error e => .error e
    | .ok a =>
      match name, a.switch "help", a.operands with
      | some (.script shell), false, operand :: _ =>
        .error (.unknownCommand operand (programName ++ " " ++ (CommandName.script shell).text) [])
      | _, _, _ => .ok (.ofArguments name a)

/-- The standard front end. -/
def FrontEnd.standard {m : Type → Type} [Monad m] : FrontEnd m where
  read arguments :=
    match Request.parse arguments with
    | .error e => .error e.message
    | .ok r => .ok r
  execute p arguments :=
    match Request.parse arguments with
    | .error e => return .fail (.plain e.message)
    | .ok r =>
      if takes : r.task.Takes r.operands.length then
        match r.task with
        | .help text => p.display text false
        | _ => do
          match ← p.prepare r.flags with
          | .error f => return .fail f
          | .ok c => p.perform c { r with takes }
      else return .fail (.plain (r.task.countError r.operands).message)

end Interlock.CommandLine
