/-! # The cost of padding

Wait states cost time at the clock of the shader. Times are for reports and never influence a
schedule. A duration is a signed number of nanoseconds. Below a second it is written in the largest
unit that leaves a whole part, from a second on in hours, minutes and seconds; fractions lose their
trailing zeros.
-/

namespace Interlock

/-- A shader clock, in megahertz. -/
structure Clock where
  megahertz : Float

namespace Clock

/-- The whole number of nanoseconds of a time that was rounded already. Times that no word can hold
are all shown as the smallest word. -/
def wordOfRounded (nanoseconds : Float) : Int64 :=
  if -9223372036854775808.0 ≤ nanoseconds ∧ nanoseconds < 9223372036854775808.0 then
    nanoseconds.toInt64
  else Int64.minValue

/-- The nanoseconds that a number of wait states takes, to the nearest one and away from zero at the
half. Without wait states, or with a clock that does not run forward, it is none. -/
def duration (clock : Clock) (waitStates : Int64) : Int64 :=
  let frequency := clock.megahertz * 1000000.0
  if waitStates ≤ 0 ∨ frequency ≤ 0.0 then 0
  else
    let seconds := (1.0 / frequency) * waitStates.toFloat
    wordOfRounded (seconds * 1000000000.0).round

end Clock

/-! ## Durations -/

namespace Text

/-- The decimals of `value / 10 ^ places` after the point, without trailing zeros, point included.
-/
def fractionText (value places : Nat) : String :=
  let digits := (Nat.toDigits 10 (value % Nat.pow 10 places))
  let padded := List.replicate (places - digits.length) '0' ++ digits
  let kept := (padded.reverse.dropWhile (· == '0')).reverse
  if places = 0 ∨ kept.isEmpty then "" else String.ofList ('.' :: kept)

/-- A number of units of `10 ^ places` nanoseconds. -/
def unitsText (nanoseconds places : Nat) (suffix : String) : String :=
  toString (nanoseconds / Nat.pow 10 places) ++ fractionText nanoseconds places ++ suffix

/-- The text of a non-negative duration. -/
def magnitudeText (nanoseconds : Nat) : String :=
  if nanoseconds = 0 then "0s"
  else if nanoseconds < Nat.pow 10 3 then unitsText nanoseconds 0 "ns"
  else if nanoseconds < Nat.pow 10 6 then unitsText nanoseconds 3 "µs"
  else if nanoseconds < Nat.pow 10 9 then unitsText nanoseconds 6 "ms"
  else
    let seconds := nanoseconds / Nat.pow 10 9
    let rest := toString (seconds % 60) ++ fractionText nanoseconds 9 ++ "s"
    if seconds < 60 then rest
    else
      let minutes := seconds / 60
      if minutes < 60 then toString minutes ++ "m" ++ rest
      else toString (minutes / 60) ++ "h" ++ toString (minutes % 60) ++ "m" ++ rest

/-- The text of a duration in nanoseconds. -/
def durationText (nanoseconds : Int64) : String :=
  let magnitude := magnitudeText nanoseconds.toInt.natAbs
  if nanoseconds < 0 then "-" ++ magnitude else magnitude

end Text

end Interlock
