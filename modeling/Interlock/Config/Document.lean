import Interlock.Config
import Interlock.Number.Shortest
import Interlock.Yaml.Layout
import Interlock.Yaml.Reading

/-! # Settings as documents

Settings that a document does not name keep their defaults.
-/

namespace Interlock.Config

open Yaml.Reader in
/-- The fields of the settings. -/
def fields : List (RecordField Config) :=
  [.of "target" text fun c target => { c with target },
    .of "clock_mhz" float fun c clockMHz => { c with clockMHz },
    .of "workers" word fun c workers => { c with workers },
    .of "disabled_rules" (list "[]string" text) fun c disabledRules => { c with disabledRules }]

/-- Reads settings. -/
def read (text : String) : Except Yaml.ReadError Config :=
  Yaml.readDocument text {} fun fuel => Yaml.Reader.record "core.Config" fields fuel {}

/-- A number of megahertz as it is written in settings: infinities start with a point. -/
def clockText (x : Float) : String :=
  if x.isNaN then ".nan"
  else if x.isInf then (if x < 0.0 then "-.inf" else ".inf")
  else Number.floatText x

/-- Settings as a record. -/
def value (c : Config) : Yaml.Value :=
  .record <|
    [("target", .text c.target), ("clock_mhz", .word (clockText c.clockMHz)),
      ("workers", .word (Number.text c.workers))] ++
    (if c.disabledRules = [] then [] else
      [("disabled_rules", .list (c.disabledRules.map .text))])

/-- Writes settings, indented in steps of four. -/
def write (c : Config) : String :=
  c.value.render 4

/-- Settings in YAML. -/
def yaml : Yaml.Format Config where
  read
  write

end Interlock.Config
