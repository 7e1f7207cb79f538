import Interlock.Catalogue.Handoff

/-! # The rule catalogue

All rules in catalogue order, the selection of those a target requires, and the two checks of a
catalogue: that its records are complete and that no target activates two rules for one hazard.
-/

namespace Interlock.Catalogue

/-- Every rule, in catalogue order. -/
def rules : List Rule :=
  [readAddend908, readAddend90a, readAddend94x, write908, write90a, write94x, write950,
    scalarToMemory, conditionToDivision, maskToMatrix, transcendentalUse, descriptorUse]

/-- Rules that describe one hazard for different generations. -/
def exclusiveGroups : List (List Rule) :=
  [[readAddend908, readAddend90a, readAddend94x], [write908, write90a, write94x, write950]]

/-- The rule of a name. -/
def find? (name : String) : Option Rule :=
  rules.find? (·.name == name)

/-- The rules that a target requires. -/
def requiredOn (target : Target) : List Rule :=
  rules.filter (·.isRequired target)

/-- Insertion into an ascending list of texts. -/
def insertName (name : String) : List String → List String
  | [] => [name]
  | n :: rest => if name < n then name :: n :: rest else n :: insertName name rest

/-- Texts in ascending order. -/
def sortNames (names : List String) : List String :=
  names.foldr insertName []

/-- A target that activates several rules of one exclusive group. -/
structure Overlap where
  target : Target
  rules : List String
deriving DecidableEq, Repr

/-- Every target that activates several rules of one group, target by target and group by group. -/
def overlaps (targets : List Target) (groups : List (List Rule)) : List Overlap :=
  targets.flatMap fun target => groups.filterMap fun group =>
    let active := (group.filter (·.isRequired target)).map (·.name)
    if 1 < active.length then some ⟨target, sortNames active⟩ else none

/-- No target activates two rules for one hazard. -/
theorem overlaps_exclusiveGroups (targets : List Target) : overlaps targets exclusiveGroups = [] := by
  rw [overlaps, List.flatMap_eq_nil_iff]
  rintro ⟨processor, xnack, sramecc, family⟩ _
  cases family <;> rfl

/-- The first gap in a list of rules after the names `seen`: an incomplete record, or a name that
came before. -/
def gapAfter? (seen : List String) : List Rule → Option Rule.Gap
  | [] => none
  | r :: rest =>
    match r.gap? with
    | some gap => some gap
    | none =>
      if r.name ∈ seen then some (.duplicate r.name) else gapAfter? (r.name :: seen) rest

/-- The first gap in a list of rules. -/
def gap? (rules : List Rule) : Option Rule.Gap :=
  gapAfter? [] rules

end Interlock.Catalogue
