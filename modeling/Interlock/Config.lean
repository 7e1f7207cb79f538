import Interlock.Catalogue

/-! # Settings

The settings that all compilations of a run share, their defaults, and what makes them valid.
-/

namespace Interlock

/-- Settings of a run. -/
structure Config where
  /-- Target of the kernels that name none of their own. -/
  target : RawText := "gfx942"
  /-- Shader clock for the cost of padding. -/
  clockMHz : Float := 2100.0
  /-- How many kernels are compiled at once. -/
  workers : Int64 := 4
  /-- Rules to skip although the target requires them. -/
  disabledRules : List RawText := []

/-- The names of the rules to skip. -/
def Config.disabledNames (c : Config) : List String :=
  c.disabledRules.map (·.shown)

/-- Why settings are not valid. -/
inductive ConfigError where
  | target (error : TargetError)
  | clock
  | workers
  | unknownRule (name : RawText)
deriving DecidableEq, Repr

/-- The wording of a settings error. -/
def ConfigError.message : ConfigError → String
  | .target error => error.message
  | .clock => "clock_mhz must be > 0"
  | .workers => "workers must be > 0"
  | .unknownRule name => "disabled_rules: unknown hazard rule " ++ name.quoted

/-- The first thing that is wrong with settings: the target, the clock, the number of workers, or a
disabled rule that the catalogue does not have. -/
def Config.defect? (c : Config) : Option ConfigError :=
  match Target.parse c.target with
  | .error e => some (.target e)
  | .ok _ =>
    if c.clockMHz ≤ 0.0 then some .clock
    else if c.workers ≤ 0 then some .workers
    else (c.disabledRules.find? fun name => (Catalogue.find? name.shown).isNone).map .unknownRule

end Interlock
