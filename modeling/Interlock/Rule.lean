import Interlock.LatencyTable
import Interlock.Target
import Interlock.Window

/-! # Hazard rules

A rule describes one hardware hazard as data: on which targets it holds, which instructions open a
window on which registers, how long the window is for each latency class, and what separation a
later instruction needs. A rule record may be incomplete or its tables may have gaps; both are
reported when they are met, as violations of the rule's invariants.
-/

namespace Interlock

/-- What becomes of a window once a conflict with it was resolved. -/
inductive WindowPolicy where
  /-- The window goes on decaying, so that a more demanding conflict is still padded. -/
  | persist
  /-- The window closes; right for rules with one requirement per latency class. -/
  | closeOnHazard
deriving DecidableEq, Repr

/-- The name of a window policy. -/
def WindowPolicy.text : WindowPolicy → String
  | .persist => "persist"
  | .closeOnHazard => "close-on-hazard"

/-- Which operands of the triggering instruction a window is about. -/
inductive Access where
  | write
  | read
deriving DecidableEq, Repr

/-- A flaw of a rule that shows while it judges an instruction. -/
inductive RuleFlaw where
  | missingClass (latencyClass : Int64) (table : LatencyTable)
  | absentPredicate
  | reported (text : String)
deriving DecidableEq, Repr

/-- The wording of a rule flaw. -/
def RuleFlaw.message : RuleFlaw → String
  | .missingClass c table =>
    "latency class " ++ Number.text c ++ " not in table \x7b" ++ table.text ++ "\x7d"
  | .absentPredicate => "runtime error: invalid memory address or nil pointer dereference"
  | .reported text => text

/-- Why a judgement ended without a verdict: a flaw, which is turned into an error of the rule, or a
crash, which nobody handles. -/
inductive Fault where
  | flaw (flaw : RuleFlaw)
  | crash (message : String)
deriving DecidableEq, Repr

/-- The wording of a fault. -/
def Fault.message : Fault → String
  | .flaw f => f.message
  | .crash message => message

/-- The judgement on a window and an instruction: the separation that they need, `none` if they do
not conflict. -/
abbrev Verdict := Except Fault (Option Int64)

/-- One hardware hazard, described as data. -/
structure Rule where
  name : String
  /-- Attached to the padding that the rule causes. -/
  comment : String
  /-- Whether the rule holds on a target. -/
  required : Option (Target → Bool)
  /-- Whether windows open on written or on read registers. -/
  access : Access
  /-- Whether an instruction opens a window. -/
  trigger : Option (Instruction → Bool)
  /-- The registers that the window tracks, where they are not all written or read ones. -/
  selection : Option (Instruction → List Register) := none
  /-- Window size by latency class of the trigger. -/
  sizes : LatencyTable
  /-- The separation that an instruction needs from the trigger of a window. -/
  hazard : Option (Window → Instruction → Verdict)
  policy : WindowPolicy := .persist

/-- Why a rule rejects an instruction. The first five are violations of the rule's invariants, then
follows an instruction that lacks what the rule needs, and last a crash. -/
inductive RuleError where
  | missingSize (rule : String) (latencyClass : Int64) (inst : String) (sizes : LatencyTable)
  | flawed (rule : String) (flaw : RuleFlaw)
  | negativeNeed (rule : String) (nops : Int64)
  | beyondWindow (rule inst trigger : String) (nops size : Int64)
  | underPadded (rule inst : String) (padding owed : Int64)
  | untracked (rule inst : String)
  | crash (message : String)
deriving DecidableEq, Repr

/-- The wording common to all violations of a rule's invariants. -/
def invariantText : String := "hazard rule invariant violation"

/-- The wording common to all instructions that lack what a rule needs. -/
def malformedText : String := "malformed instruction"

namespace RuleError

/-- What an error says about who is at fault. -/
inductive Kind where
  | invariant
  | malformed
  | crash
deriving DecidableEq, Repr

/-- The kind of an error. -/
def kind : RuleError → Kind
  | .missingSize .. | .flawed .. | .negativeNeed .. | .beyondWindow .. | .underPadded .. =>
    .invariant
  | .untracked .. => .malformed
  | .crash _ => .crash

/-- The particular part of the wording. -/
def detail : RuleError → String
  | .missingSize rule c inst sizes =>
    rule ++ ": latency class " ++ Number.text c ++ " of " ++ inst ++ " not in table \x7b" ++
      sizes.text ++ "\x7d"
  | .flawed rule flaw => rule ++ ": " ++ flaw.message
  | .negativeNeed rule nops => rule ++ ": negative requirement " ++ Number.text nops
  | .beyondWindow rule inst trigger nops size =>
    rule ++ ": " ++ inst ++ " after " ++ trigger ++ " needs " ++ Number.text nops ++
      " wait states, window holds " ++ Number.text size
  | .underPadded rule inst padding owed =>
    rule ++ ": " ++ inst ++ " committed with " ++ Number.text padding ++ " wait states, " ++
      Number.text owed ++ " required"
  | .untracked rule inst =>
    rule ++ ": " ++ inst ++ " triggers the rule but has no tracked registers"
  | .crash message => message

/-- The wording of an error of a rule. -/
def message (e : RuleError) : String :=
  match e.kind with
  | .invariant => e.detail ++ ": " ++ invariantText
  | .malformed => e.detail ++ ": " ++ malformedText
  | .crash => e.detail

end RuleError

namespace Rule

/-- Whether the rule holds on a target. -/
def isRequired (r : Rule) (target : Target) : Bool :=
  match r.required with
  | some required => required target
  | none => false

/-- The operands that windows of the rule are about. -/
def accessed (r : Rule) (inst : Instruction) : List Register :=
  match r.access with
  | .write => inst.dst
  | .read => inst.src

/-- Whether an instruction opens a window. Without operands of the rule's kind it does not. -/
def triggers (r : Rule) (inst : Instruction) : Bool :=
  !(r.accessed inst).isEmpty &&
    match r.trigger with
    | some trigger => trigger inst
    | none => false

/-- Whether asking for the trigger crashes: the rule has none, and the instruction is one to ask
about. -/
def lacksTrigger (r : Rule) (inst : Instruction) : Bool :=
  !(r.accessed inst).isEmpty && r.trigger.isNone

/-- The registers that a window opened by `inst` tracks. -/
def trackedRegs (r : Rule) (inst : Instruction) : List Register :=
  match r.selection with
  | some selection => selection inst
  | none => r.accessed inst

/-- The size of the window that `inst` opens. -/
def sizeFor (r : Rule) (inst : Instruction) : Except RuleError Int64 :=
  match r.sizes.lookup? inst.passes with
  | some size => .ok size
  | none => .error (.missingSize r.name inst.passes inst.name.shown r.sizes)

/-- The rule's own judgement, faults included. -/
def judge (r : Rule) (w : Window) (inst : Instruction) : Verdict :=
  match r.hazard with
  | some hazard => hazard w inst
  | none => .error (.flaw .absentPredicate)

/-- The separation that `inst` needs from the trigger of `w`. A requirement must be in the range of
the window, from zero to its size. -/
def check (r : Rule) (w : Window) (inst : Instruction) : Except RuleError (Option Int64) :=
  match r.judge w inst with
  | .error (.flaw flaw) => .error (.flawed r.name flaw)
  | .error (.crash message) => .error (.crash message)
  | .ok none => .ok none
  | .ok (some nops) =>
    if nops < 0 then .error (.negativeNeed r.name nops)
    else if w.size < nops then
      .error (.beyondWindow r.name inst.name.shown w.trigger.name.shown nops w.size)
    else .ok (some nops)

/-- The separation that `conflict` needs from `trigger`, `none` if the pair is no hazard. -/
def separation (r : Rule) (trigger conflict : Instruction) : Except RuleError (Option Int64) :=
  if r.lacksTrigger trigger then .error (.crash RuleFlaw.absentPredicate.message)
  else if r.triggers trigger then
    match r.sizeFor trigger with
    | .error e => .error e
    | .ok size => r.check (.opened trigger (r.trackedRegs trigger) size) conflict
  else .ok none

/-- What is missing in a rule record. -/
inductive Gap where
  | noName
  | noComment (rule : String)
  | noPredicate (rule : String)
  | noSizes (rule : String)
  | duplicate (rule : String)
deriving DecidableEq, Repr

/-- The wording of a gap. -/
def Gap.message (g : Gap) : String :=
  let detail := match g with
    | .noName => "rule without name"
    | .noComment rule => rule ++ ": no diagnostic comment"
    | .noPredicate rule => rule ++ ": missing predicate"
    | .noSizes rule => rule ++ ": empty latency table"
    | .duplicate rule => "duplicate rule " ++ rule
  detail ++ ": " ++ invariantText

/-- The first gap of a rule record. -/
def gap? (r : Rule) : Option Gap :=
  if r.name = "" then some .noName
  else if r.comment = "" then some (.noComment r.name)
  else if r.required.isNone || r.trigger.isNone || r.hazard.isNone then some (.noPredicate r.name)
  else if r.sizes.size = 0 then some (.noSizes r.name)
  else none

end Rule

end Interlock
