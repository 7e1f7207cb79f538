import Interlock.Benchmark
import Interlock.Compilation

/-! # Benchmark reports

Benchmarks are run one after the other, and their results are shown as text, as comma-separated
lines or as JSON. Large numbers are written with a comma after every third digit from the right.
-/

namespace Interlock

/-! ## Columns of numbers -/

namespace Text

/-- Puts commas into digits that are given from the right. -/
def groupFromRight : List Char → List Char
  | a :: b :: c :: d :: rest => a :: b :: c :: ',' :: groupFromRight (d :: rest)
  | digits => digits

/-- A number with grouped digits. -/
def grouped (n : Int64) : String :=
  let digits := String.ofList (groupFromRight (Nat.toDigits 10 n.toInt.natAbs).reverse).reverse
  if n < 0 then "-" ++ digits else digits

/-- A text filled up with spaces on the right to a number of characters. -/
def padRight (width : Nat) (text : String) : String :=
  text ++ String.ofList (List.replicate (width - text.length) ' ')

end Text

/-! ## Results -/

/-- What came of one benchmark. -/
structure BenchmarkResult where
  name : String
  description : String
  target : String
  instructions : Int64
  hazards : Int64 := 0
  padding : Int64 := 0
  expectedPadding : Int64
  byRule : Tally := {}
  /-- Nanoseconds that the padding takes. -/
  paddingTime : Int64 := 0
  /-- Nanoseconds that the scheduling took. -/
  wallTime : Int64 := 0
  /-- Why scheduling failed, empty if it did not. -/
  error : String := ""

namespace BenchmarkResult

/-- Whether the kernel was scheduled with the documented padding. -/
def matched (r : BenchmarkResult) : Bool :=
  r.error == "" && r.padding == r.expectedPadding

end BenchmarkResult

/-- Runs one benchmark. The wall time is left for whoever holds a clock. -/
def Benchmark.run (verbosity : Int) (id : String) (config : Config) (b : Benchmark) :
    BenchmarkResult × List String :=
  let blank : BenchmarkResult :=
    { name := b.name
      description := b.description
      target := b.target
      instructions := Int64.ofNat b.kernel.length
      expectedPadding := b.expectedPadding }
  match compile verbosity .never id config ⟨b.name, b.target, b.kernel⟩ with
  | (.error e, log) => ({ blank with error := e.message }, log)
  | (.ok k, log) =>
    ({ blank with
        target := k.target.text
        hazards := k.stats.hazards
        padding := k.stats.padding
        byRule := k.stats.byRule
        paddingTime := k.paddingTime }, log)

namespace Report

/-- The readable report on one benchmark. -/
def resultText (verbose : Bool) (r : BenchmarkResult) : String :=
  let head := "Benchmark: " ++ r.name ++ "\n  Description: " ++ r.description ++ "\n  Target: " ++
    r.target ++ "\n"
  if r.error ≠ "" then head ++ "  Error: " ++ r.error ++ "\n\n"
  else
    let credits := if verbose then
        String.join (r.byRule.credits.map fun (rule, n) =>
          "    " ++ Text.padRight 20 rule ++ " " ++ Number.text n ++ "\n")
      else ""
    head ++ "  Instructions:     " ++ Text.grouped r.instructions ++ "\n  Hazards:          " ++
      Number.text r.hazards ++ "\n  Padding:          " ++ Number.text r.padding ++
      " (expected " ++ Number.text r.expectedPadding ++ ")\n  Padding Time:     " ++
      Text.durationText r.paddingTime ++ "\n" ++ credits ++ "  Wall Time: " ++
      Text.durationText r.wallTime ++ "\n\n"

/-- The readable report. -/
def text (verbose : Bool) (results : List BenchmarkResult) : String :=
  "=== Hazard Scheduler Benchmark Results ===\n\n" ++
    String.join (results.map (resultText verbose))

/-- The report as comma-separated lines under a header. -/
def csv (results : List BenchmarkResult) : String :=
  "name,target,instructions,hazards,padding,expected_padding,padding_time_ns\n" ++
    String.join (results.map fun r =>
      ",".intercalate [r.name, r.target, Number.text r.instructions, Number.text r.hazards,
        Number.text r.padding, Number.text r.expectedPadding, Number.text r.paddingTime] ++ "\n")

/-- One character of a JSON text. Characters that mean something in HTML are written by number, and
so are the two separators that end lines elsewhere. -/
def jsonChar (c : Char) : List Char :=
  if c = '"' ∨ c = '\\' then ['\\', c]
  else if c = '\n' then ['\\', 'n']
  else if c = '\r' then ['\\', 'r']
  else if c = '\t' then ['\\', 't']
  else if c.toNat = 0x08 then ['\\', 'b']
  else if c.toNat = 0x0c then ['\\', 'f']
  else if c.toNat < 0x20 ∨ c = '<' ∨ c = '>' ∨ c = '&' ∨ c.toNat = 0x2028 ∨ c.toNat = 0x2029 then
    '\\' :: 'u' :: Text.hexField .small 4 c.toNat
  else [c]

/-- A JSON text. -/
def jsonText (s : String) : String :=
  String.ofList ('"' :: s.toList.flatMap jsonChar ++ ['"'])

/-- Members of a JSON object on lines of their own, at an indentation. -/
def jsonObject (indent : String) (members : List (String × String)) : String :=
  "\x7b\n" ++ ",\n".intercalate (members.map fun (key, value) =>
    indent ++ "  " ++ jsonText key ++ ": " ++ value) ++ "\n" ++ indent ++ "\x7d"

/-- The members of one result. Without credits or without an error those members are left out. -/
def jsonMembers (r : BenchmarkResult) : List (String × String) :=
  [("name", jsonText r.name), ("description", jsonText r.description),
    ("target", jsonText r.target),
    ("instructions", Number.text r.instructions), ("hazards", Number.text r.hazards),
    ("padding", Number.text r.padding), ("expected_padding", Number.text r.expectedPadding)] ++
  (if r.byRule.credits.isEmpty then []
    else [("padding_by_rule", jsonObject "    " (r.byRule.credits.map fun (rule, n) =>
      (rule, Number.text n)))]) ++
  [("padding_time_ns", Number.text r.paddingTime), ("wall_time_ns", Number.text r.wallTime)] ++
  (if r.error = "" then [] else [("error", jsonText r.error)])

/-- The report as indented JSON. -/
def json (results : List BenchmarkResult) : String :=
  if results.isEmpty then "[]\n"
  else
    "[\n" ++ ",\n".intercalate (results.map fun r => "  " ++ jsonObject "  " (jsonMembers r)) ++
      "\n]\n"

end Report

end Interlock
