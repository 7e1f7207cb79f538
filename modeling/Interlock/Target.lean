import Interlock.Text.Folding
import Interlock.Text.Quoted

/-! # Targets

A target is a processor together with two optional features. Processors are grouped in families that
share their hazards.
-/

namespace Interlock

/-- Processor generations that share hazard behaviour. -/
inductive Family where
  | unknown
  | cdna1
  | cdna2
  | cdna3
  | cdna35
  | rdna3
  | rdna4
deriving DecidableEq, Repr

namespace Family

/-- The families in the order of their numbers. -/
def all : List Family := [.unknown, .cdna1, .cdna2, .cdna3, .cdna35, .rdna3, .rdna4]

/-- The number of a family. -/
def code (family : Family) : Nat := all.idxOf family

/-- The family of a number; numbers without a family mean the unknown one. -/
def ofCode (n : Int64) : Family :=
  if n < 0 then .unknown else (all[n.toNatClampNeg]?).getD .unknown

/-- The name of a family. -/
def text : Family → String
  | .unknown => "unknown"
  | .cdna1 => "CDNA1"
  | .cdna2 => "CDNA2"
  | .cdna3 => "CDNA3"
  | .cdna35 => "CDNA3.5"
  | .rdna3 => "RDNA3"
  | .rdna4 => "RDNA4"

/-- Whether the family is a compute generation. -/
def isCdna : Family → Bool
  | .cdna1 | .cdna2 | .cdna3 | .cdna35 => true
  | _ => false

end Family

/-- One resolved target. The default value is the target of nothing: no processor, no family. -/
structure Target where
  processor : String := ""
  xnack : Bool := false
  sramecc : Bool := false
  family : Family := .unknown
deriving DecidableEq, Repr, Inhabited

/-- Why a text is no target id. -/
inductive TargetError where
  | unknownProcessor (id : RawText)
  | unknownFeature (id : RawText) (feature : String)
deriving DecidableEq, Repr

/-- The wording of a target error. -/
def TargetError.message : TargetError → String
  | .unknownProcessor id => id.quoted ++ ": unknown GPU architecture target"
  | .unknownFeature id feature =>
    "target " ++ id.quoted ++ ": unknown feature " ++ Text.quote feature

namespace Target

/-- The known processors by ascending name, with their families. -/
def processors : List (String × Family) :=
  [("gfx1100", .rdna3), ("gfx1101", .rdna3), ("gfx1102", .rdna3), ("gfx1200", .rdna4),
    ("gfx1201", .rdna4), ("gfx908", .cdna1), ("gfx90a", .cdna2), ("gfx940", .cdna3),
    ("gfx941", .cdna3), ("gfx942", .cdna3), ("gfx950", .cdna35)]

/-- Every known processor without features, by ascending name. -/
def known : List Target :=
  processors.map fun (processor, family) => { processor, family }

/-- Switches one feature on or off; a text that is no feature is refused. -/
def withFeature? (target : Target) (feature : List Char) : Option Target :=
  if feature = "xnack+".toList then some { target with xnack := true }
  else if feature = "xnack-".toList then some { target with xnack := false }
  else if feature = "sramecc+".toList then some { target with sramecc := true }
  else if feature = "sramecc-".toList then some { target with sramecc := false }
  else none

/-- Applies features from left to right, so that the last word on a feature holds. -/
def withFeatures (id : RawText) : Target → List (List Char) → Except TargetError Target
  | target, [] => .ok target
  | target, feature :: rest =>
    match target.withFeature? feature with
    | some target => withFeatures id target rest
    | none => .error (.unknownFeature id (String.ofList feature))

/-- The pieces of a text between the occurrences of `mark`. -/
def splitAt (mark : Char) : List Char → List (List Char)
  | [] => [[]]
  | c :: rest =>
    if c = mark then [] :: splitAt mark rest
    else match splitAt mark rest with
      | [] => [[c]]
      | piece :: pieces => (c :: piece) :: pieces

/-- Resolves a target id such as `gfx942:sramecc+:xnack-`, in any case and between blanks. -/
def parse (id : RawText) : Except TargetError Target :=
  match splitAt ':' (Text.lower (Text.trim id.shown.toList)) with
  | [] => .error (.unknownProcessor id)
  | processor :: features =>
    let name := String.ofList processor
    match processors.lookup name with
    | none => .error (.unknownProcessor id)
    | some family => withFeatures id { processor := name, family } features

/-- The target id, with the features that are switched on. -/
def text (target : Target) : String :=
  if target.processor = "" then "<unknown>"
  else target.processor ++ (if target.sramecc then ":sramecc+" else "") ++
    (if target.xnack then ":xnack+" else "")

end Target

end Interlock
