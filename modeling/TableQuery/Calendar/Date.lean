import TableQuery.Text.Digit

/-!
# Calendar dates

A date is a day of the proleptic Gregorian calendar in the years 1 to 9999; the type admits no other. Days are
counted from the first of January of year 1, which is day 1 and a Monday (`Date.ordinal`, `Date.ofOrdinal?`).
-/

set_option autoImplicit false

namespace TableQuery

def isLeap (year : Nat) : Bool :=
  year % 4 == 0 && (year % 100 != 0 || year % 400 == 0)

def daysInMonth (year month : Nat) : Nat :=
  if month = 2 then (if isLeap year then 29 else 28)
  else if month = 4 ∨ month = 6 ∨ month = 9 ∨ month = 11 then 30
  else 31

/-- The three numbers name a day of the calendar. -/
abbrev ValidDate (year month day : Nat) : Prop :=
  1 ≤ year ∧ year ≤ 9999 ∧ 1 ≤ month ∧ month ≤ 12 ∧ 1 ≤ day ∧ day ≤ daysInMonth year month

/-- A day of the calendar. -/
structure Date where
  year : Nat
  month : Nat
  day : Nat
  valid : ValidDate year month day
  deriving DecidableEq

namespace Date

/-- The day that three numbers name. -/
def make? (year month day : Nat) : Option Date :=
  if h : ValidDate year month day then some ⟨year, month, day, h⟩ else none

instance : Inhabited Date := ⟨⟨1, 1, 1, by decide⟩⟩

instance : Repr Date := ⟨fun d _ => repr (d.year, d.month, d.day)⟩

def daysBeforeYear (year : Nat) : Nat :=
  let y := year - 1
  365 * y + y / 4 - y / 100 + y / 400

def daysBeforeMonth (year month : Nat) : Nat :=
  (List.range' 1 (month - 1)).foldl (fun days m => days + daysInMonth year m) 0

/-- The number of the day within its year, from 1. -/
def dayOfYear (d : Date) : Nat :=
  daysBeforeMonth d.year d.month + d.day

/-- The number of the day, from 1. -/
def ordinal (d : Date) : Nat :=
  daysBeforeYear d.year + d.dayOfYear

/-- The year that holds a day given by its number from 0, and the number of the day within it, from 0. -/
def yearOfDay (n : Nat) : Nat × Nat :=
  let q400 := n / 146097
  let n := n % 146097
  let q100 := min 3 (n / 36524)
  let n := n - 36524 * q100
  let q4 := n / 1461
  let n := n % 1461
  let q1 := min 3 (n / 365)
  (400 * q400 + 100 * q100 + 4 * q4 + q1 + 1, n - 365 * q1)

/-- The month, of those given, that holds a day of the year, and the day within it, both from 0. -/
def monthOfDay (year : Nat) : List Nat → Nat → Nat × Nat
  | [], n => (12, n)
  | m :: rest, n => if n < daysInMonth year m then (m, n) else monthOfDay year rest (n - daysInMonth year m)

/-- The day with a number, counted from 1. -/
def ofOrdinal? (n : Nat) : Option Date :=
  if n = 0 then none
  else
    let (year, rest) := yearOfDay (n - 1)
    let (month, day) := monthOfDay year (List.range' 1 12) rest
    make? year month (day + 1)

/-- The day of the week, Monday being 0. -/
def weekday (d : Date) : Nat :=
  (d.ordinal + 6) % 7

/-- The number of the Monday that starts the first week of a year: the week with the year's first Thursday. -/
def firstMonday (year : Nat) : Int :=
  let first : Int := daysBeforeYear year + 1
  let weekday := (first + 6) % 7
  let monday := first - weekday
  if weekday > 3 then monday + 7 else monday

/-- The year, week and day of the week under week numbering. -/
def week (d : Date) : Nat × Nat × Nat :=
  let n : Int := d.ordinal
  let year :=
    if n < firstMonday d.year then d.year - 1
    else if firstMonday (d.year + 1) ≤ n then d.year + 1
    else d.year
  (year, ((n - firstMonday year) / 7).toNat + 1, d.weekday + 1)

/-- The day with a year, week and day of the week. A year has 53 weeks if it starts on a Thursday, or is a leap
year that starts on a Wednesday. -/
def ofWeek? (year week day : Nat) : Option Date :=
  let weekday := (daysBeforeYear year + 7) % 7
  let lastWeek := if weekday = 3 ∨ (weekday = 2 ∧ isLeap year) then 53 else 52
  if 1 ≤ year ∧ year ≤ 9999 ∧ 1 ≤ week ∧ week ≤ lastWeek ∧ 1 ≤ day ∧ day ≤ 7 then
    ofOrdinal? (firstMonday year + ((week - 1) * 7 + (day - 1) : Nat)).toNat
  else none

/-- The date as `YYYY-MM-DD`. -/
def toText (d : Date) : String :=
  Text.padded 4 d.year ++ "-" ++ Text.padded 2 d.month ++ "-" ++ Text.padded 2 d.day

/-- A date is made from exactly the valid numbers. -/
theorem make?_isSome_iff (y m d : Nat) : (make? y m d).isSome ↔ ValidDate y m d := by
  unfold make?
  split
  · next h => exact ⟨fun _ => h, fun _ => rfl⟩
  · next h => exact ⟨nofun, fun e => absurd e h⟩

end Date

end TableQuery
