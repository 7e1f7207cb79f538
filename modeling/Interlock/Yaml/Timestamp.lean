import Interlock.Number.Integer

/-! # Timestamps

A plain scalar that reads as a date, or as a date and a time of day, is a timestamp and not a text.
Only this distinction matters here: no timestamp is ever used.
-/

namespace Interlock.Yaml.Timestamp

/-- Reads a number of one or two digits. -/
def twoDigits? : List Char → Option (Nat × List Char)
  | a :: rest =>
    if a.isDigit then
      match rest with
      | b :: more =>
        if b.isDigit then some ((a.toNat - 0x30) * 10 + (b.toNat - 0x30), more)
        else some (a.toNat - 0x30, rest)
      | [] => some (a.toNat - 0x30, [])
    else none
  | [] => none

/-- Reads a number of exactly two digits. -/
def bothDigits? : List Char → Option (Nat × List Char)
  | a :: b :: rest =>
    if a.isDigit && b.isDigit then some ((a.toNat - 0x30) * 10 + (b.toNat - 0x30), rest) else none
  | _ => none

/-- Passes one given character. -/
def expect? (c : Char) : List Char → Option (List Char)
  | x :: rest => if x = c then some rest else none
  | [] => none

/-- The number of days of a month. -/
def daysIn (year month : Nat) : Nat :=
  if month = 2 then
    if year % 4 = 0 ∧ (year % 100 ≠ 0 ∨ year % 400 = 0) then 29 else 28
  else if month ∈ [4, 6, 9, 11] then 30
  else 31

/-- Passes a date: a year of four digits, a month and a day that it has. -/
def date? (text : List Char) : Option (List Char) := do
  let (year, rest) := text.span Char.isDigit
  if year.length ≠ 4 then none
  let rest ← expect? '-' rest
  let (month, rest) ← twoDigits? rest
  let rest ← expect? '-' rest
  let (day, rest) ← twoDigits? rest
  let year := year.foldl (fun n c => n * 10 + (c.toNat - 0x30)) 0
  if 1 ≤ month ∧ month ≤ 12 ∧ 1 ≤ day ∧ day ≤ daysIn year month then some rest else none

/-- Passes a fraction of a second, if there is one. -/
def fraction : List Char → List Char
  | mark :: d :: rest =>
    if (mark = '.' || mark = ',') && d.isDigit then rest.dropWhile Char.isDigit
    else mark :: d :: rest
  | text => text

/-- Passes a time of day. -/
def clock? (text : List Char) : Option (List Char) := do
  let (hour, rest) ← twoDigits? text
  let rest ← expect? ':' rest
  let (minute, rest) ← twoDigits? rest
  let rest ← expect? ':' rest
  let (second, rest) ← twoDigits? rest
  if hour < 24 ∧ minute < 60 ∧ second < 60 then some (fraction rest) else none

/-- Passes a time zone: `Z`, or an offset in hours and minutes. -/
def zone? : List Char → Option (List Char)
  | 'Z' :: rest => some rest
  | sign :: rest => do
    if sign ≠ '+' ∧ sign ≠ '-' then none
    let (hours, rest) ← bothDigits? rest
    let rest ← expect? ':' rest
    let (minutes, rest) ← bothDigits? rest
    if hours ≤ 24 ∧ minutes ≤ 60 then some rest else none
  | [] => none

/-- Whether a text is a date, a date and a time with a zone after a `T`, or a date and a time
without zone after blanks. -/
def isTimestamp (text : List Char) : Bool :=
  match date? text with
  | none => false
  | some [] => true
  | some (mark :: rest) =>
    if mark = 'T' || mark = 't' then (clock? rest >>= zone?) = some []
    else if mark = ' ' then clock? (rest.dropWhile (· = ' ')) = some []
    else false

end Interlock.Yaml.Timestamp
