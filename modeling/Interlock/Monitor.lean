import Interlock.Rule

/-! # Monitors

A monitor runs one rule over an instruction stream and holds the windows that the rule has opened.
Asking for the padding of an instruction changes nothing; committing an instruction ages every
window, drops those that can require nothing more, and opens the window the instruction triggers.
-/

namespace Interlock

/-- A rule and its open windows, oldest place first. -/
structure Monitor where
  rule : Rule
  windows : List Window := []

namespace Rule

/-- The padding that `inst` still lacks with respect to one window: nothing without a conflict. -/
def owedTo (r : Rule) (inst : Instruction) (w : Window) : Except RuleError Int64 :=
  match r.check w inst with
  | .error e => .error e
  | .ok none => .ok 0
  | .ok (some nops) => .ok (w.remaining nops)

/-- The largest padding that `inst` lacks with respect to the windows, at least `padding`. The first
window that fails decides the error. -/
def owedAfter (r : Rule) (inst : Instruction) (padding : Int64) :
    List Window → Except RuleError Int64
  | [] => .ok padding
  | w :: rest =>
    match r.owedTo inst w with
    | .error e => .error e
    | .ok owed => owedAfter r inst (if padding < owed then owed else padding) rest

/-- What a committed instruction makes of one window: the aged window, and whether it stays open. A
conflict that `padding` does not resolve is an error. -/
def settle (r : Rule) (inst : Instruction) (padding : Int64) (w : Window) :
    Except RuleError (Window × Bool) :=
  match r.check w inst with
  | .error e => .error e
  | .ok need =>
    let owed := match need with
      | some nops => w.remaining nops
      | none => 0
    if need.isSome ∧ padding < owed then .error (.underPadded r.name inst.name.shown padding owed)
    else
      let w := w.aged (padding + inst.waitStates)
      .ok (w, !(need.isSome && r.policy == .closeOnHazard) && !w.inert)

/-- The windows that stay open after a committed instruction. The first window that fails decides
the error. -/
def settleAll (r : Rule) (inst : Instruction) (padding : Int64) :
    List Window → Except RuleError (List Window)
  | [] => .ok []
  | w :: rest =>
    match r.settle inst padding w with
    | .error e => .error e
    | .ok (w, stays) =>
      match settleAll r inst padding rest with
      | .error e => .error e
      | .ok kept => .ok (if stays then w :: kept else kept)

/-- The window that `inst` opens, `none` if it opens none. -/
def opening (r : Rule) (inst : Instruction) : Except RuleError (Option Window) :=
  if r.lacksTrigger inst then .error (.crash RuleFlaw.absentPredicate.message)
  else if r.triggers inst then
    match r.sizeFor inst with
    | .error e => .error e
    | .ok size =>
      if (r.trackedRegs inst).isEmpty then .error (.untracked r.name inst.name.shown)
      else if size = 0 then .ok none
      else .ok (some (.opened inst (r.trackedRegs inst) size))
  else .ok none

end Rule

/-- Puts a new window in place of the first one over the same registers, or behind all others. -/
def Window.place (new : Window) : List Window → List Window
  | [] => [new]
  | old :: rest => if old.tracks new.regs then new :: rest else old :: place new rest

namespace Monitor

/-- The padding that `inst` needs before it can issue. -/
def peek (m : Monitor) (inst : Instruction) : Except RuleError Int64 :=
  m.rule.owedAfter inst 0 m.windows

/-- Commits `inst` after `padding` wait states were issued in front of it. -/
def commit (m : Monitor) (inst : Instruction) (padding : Int64) : Except RuleError Monitor :=
  match m.rule.settleAll inst padding m.windows with
  | .error e => .error e
  | .ok kept =>
    match m.rule.opening inst with
    | .error e => .error e
    | .ok none => .ok { m with windows := kept }
    | .ok (some w) => .ok { m with windows := w.place kept }

end Monitor

end Interlock
