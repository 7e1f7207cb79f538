import Interlock.Instruction

/-! # Hazard windows

A window is opened by a triggering instruction. It remembers which registers are concerned, how many
wait states have passed since, and how many any conflict may ask for.
-/

namespace Interlock

/-- An open hazard. -/
structure Window where
  trigger : Instruction
  /-- Latency class of the trigger. -/
  latencyClass : Int64
  /-- Registers that the window tracks. -/
  regs : List Register
  /-- Wait states issued since the trigger, padding included. -/
  elapsed : Int64 := 0
  /-- Largest separation that a conflict can require. -/
  size : Int64
deriving DecidableEq, Repr

namespace Window

/-- The window that an instruction opens on `regs`. -/
def opened (trigger : Instruction) (regs : List Register) (size : Int64) : Window :=
  { trigger, latencyClass := trigger.passes, regs, size }

/-- The padding that a conflict needing `nops` still lacks. -/
def remaining (w : Window) (nops : Int64) : Int64 :=
  let r := nops - w.elapsed
  if 0 < r then r else 0

/-- Whether no conflict can require padding any more. -/
def inert (w : Window) : Bool :=
  w.size ≤ w.elapsed

/-- The window after `slots` more issue slots. -/
def aged (w : Window) (slots : Int64) : Window :=
  { w with elapsed := w.elapsed + slots }

/-- Whether a tracked range shares a register with `r`. -/
def overlaps (w : Window) (r : Register) : Bool :=
  w.regs.any (·.overlaps r)

/-- Whether `r` is exactly one of the tracked ranges. -/
def covers (w : Window) (r : Register) : Bool :=
  w.regs.any (·.same r)

/-- Whether two lists name the same ranges in the same order. -/
def sameRanges : List Register → List Register → Bool
  | [], [] => true
  | r :: rs, o :: os => r.same o && sameRanges rs os
  | _, _ => false

/-- Whether the window tracks exactly `regs`. -/
def tracks (w : Window) (regs : List Register) : Bool :=
  sameRanges regs w.regs

end Window

end Interlock
