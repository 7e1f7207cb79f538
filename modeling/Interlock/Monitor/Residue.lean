import Interlock.Monitor

/-! # What a rejected commit leaves behind

A commit settles the windows one after the other and moves those that stay to the front. When a
window rejects the instruction, the windows before it are aged already and some places are already
overwritten: the places that were not yet given back still name the windows they named before. One
window may then stand in two places and age once for each.

A `Residue` is a monitor in that state. Its windows are kept in a pool, and its places are positions
in the pool. A monitor after accepted commits is the special case of one place for each window.
-/

namespace Interlock

/-- A rule, a pool of windows, and the places that show them. -/
structure Residue where
  rule : Rule
  pool : Array Window := #[]
  places : List Nat := []

namespace Residue

/-- The windows as the places show them. -/
def windows (r : Residue) : List Window :=
  r.places.filterMap (r.pool[·]?)

/-- The padding that `inst` needs before it can issue. -/
def peek (r : Residue) (inst : Instruction) : Except RuleError Int64 :=
  r.rule.owedAfter inst 0 r.windows

/-- Settles the windows of the places one after the other. The result is the pool, the places that
stay, and the error of the place that rejected the instruction, if one did. -/
def settlePlaces (rule : Rule) (inst : Instruction) (padding : Int64) :
    Array Window → List Nat → Array Window × List Nat × Option RuleError
  | pool, [] => (pool, [], none)
  | pool, place :: rest =>
    match pool[place]? with
    | none => settlePlaces rule inst padding pool rest
    | some w =>
      match rule.settle inst padding w with
      | .error e => (pool, [], some e)
      | .ok (w, stays) =>
        let (pool, kept, error) := settlePlaces rule inst padding (pool.setIfInBounds place w) rest
        (pool, if stays then place :: kept else kept, error)

/-- Shows a new window in place of the first one over the same registers, or behind all others. -/
def reveal (r : Residue) (w : Window) : Residue :=
  let number := r.pool.size
  let tracksSame := fun place => match r.pool[place]? with
    | some old => old.tracks w.regs
    | none => false
  let before := r.places.takeWhile (!tracksSame ·)
  let after := (r.places.dropWhile (!tracksSame ·)).drop 1
  { r with pool := r.pool.push w, places := before ++ number :: after }

/-- Commits `inst` after `padding` wait states. On an error the residue is what the rejected commit
leaves behind. -/
def commit (r : Residue) (inst : Instruction) (padding : Int64) : Except RuleError Unit × Residue :=
  match settlePlaces r.rule inst padding r.pool r.places with
  | (pool, kept, some e) =>
    (.error e, { r with pool, places := kept ++ r.places.drop kept.length })
  | (pool, kept, none) =>
    let settled : Residue := { r with pool, places := kept }
    match r.rule.opening inst with
    | .error e => (.error e, settled)
    | .ok none => (.ok (), settled)
    | .ok (some w) => (.ok (), settled.reveal w)

/-- Commits `inst` after the padding that the windows ask for, which is returned too. -/
def step (r : Residue) (inst : Instruction) : Except RuleError Int64 × Residue :=
  match r.peek inst with
  | .error e => (.error e, r)
  | .ok padding =>
    match r.commit inst padding with
    | (.error e, left) => (.error e, left)
    | (.ok (), left) => (.ok padding, left)

end Residue

end Interlock
