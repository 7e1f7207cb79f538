import Interlock.Scheduler

/-! # What a scheduler reports

Reports have levels: level 0 is always shown, a higher level only up to the chosen verbosity. A
report whose text has several lines takes several lines of the log.
-/

namespace Interlock

/-- The lines of a report. A line break at its very end opens no further line. -/
def logLines (report : String) : List String :=
  match (report.splitOn "\n").reverse with
  | "" :: last :: before => (last :: before).reverse
  | lines => lines.reverse

/-- The lines of a report of some level, if the verbosity shows them. -/
def logAt (level verbosity : Int) (report : Unit → String) : List String :=
  if level ≤ verbosity then logLines (report ()) else []

namespace Scheduler

/-- What the choice of rules reports: a warning for each required rule that is disabled, and the
active rules. -/
def openingLog (s : Scheduler) (verbosity : Int) (candidates : List Rule)
    (disabled : List String) : List String :=
  let skipped := candidates.filter fun r => r.isRequired s.target && disabled.contains r.name
  let warnings := skipped.flatMap fun r =>
    logLines (s.label ++ ": hazard rule " ++ r.name ++ " disabled for " ++ s.target.text ++
      ", kernel may be under-padded")
  warnings ++ logAt 1 verbosity fun _ =>
    s.label ++ ": target " ++ s.target.text ++ " activates " ++ toString s.monitors.length ++
      " hazard rules: " ++ ", ".intercalate (s.rules.map (·.name))

/-- The report on one open window after the instruction at a position. -/
def windowReport (s : Scheduler) (position : Nat) (rule : Rule) (w : Window) : String :=
  s.label ++ ": after instruction " ++ toString position ++ ": " ++ rule.name ++ " window of " ++
    w.trigger.name.shown ++ " on [" ++ " ".intercalate (w.regs.map Register.text) ++ "], " ++
    Number.text w.elapsed ++ " of " ++ Number.text w.size ++ " wait states elapsed"

/-- What the step at a position reports: the windows that are open after it, and the padding that it
decided on. -/
def stepLog (verbosity : Int) (position : Nat) (inst : Instruction) (d : Decision)
    (after : Scheduler) : List String :=
  let windows :=
    if verbosity < 3 then []
    else after.monitors.flatMap fun m => m.windows.flatMap fun w =>
      logLines (after.windowReport position m.rule w)
  let padding :=
    if d.padding = 0 then []
    else logAt 2 verbosity fun _ =>
      after.label ++ ": " ++ Number.text d.padding ++ " wait states before instruction " ++
        toString position ++ " (" ++ inst.name.shown ++ "): " ++ d.comment
  windows ++ padding

end Scheduler

end Interlock
