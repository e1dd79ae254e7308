import TableQuery.Calendar.Date

/-!
# Points in time

A `Moment` is a date with a time of day, to the microsecond and without a time zone; a `Stamp` may add an offset
from universal time. `Stamp.utc?` moves a stamp to universal time, which fails beyond the calendar.
-/

set_option autoImplicit false

namespace TableQuery

/-- A time of day within its limits. -/
abbrev ValidTime (hour minute second micro : Nat) : Prop :=
  hour < 24 ∧ minute < 60 ∧ second < 60 ∧ micro < 1000000

/-- A date and a time of day. -/
structure Moment where
  date : Date
  hour : Nat
  minute : Nat
  second : Nat
  micro : Nat
  valid : ValidTime hour minute second micro
  deriving DecidableEq, Repr

namespace Moment

instance : Inhabited Moment := ⟨⟨default, 0, 0, 0, 0, by decide⟩⟩

/-- The moment of a date at a time of day. -/
def make? (date : Date) (hour minute second micro : Nat) : Option Moment :=
  if h : ValidTime hour minute second micro then some ⟨date, hour, minute, second, micro, h⟩ else none

def midnight (date : Date) : Moment := ⟨date, 0, 0, 0, 0, by decide⟩

def dayMicros : Nat := 86400000000

/-- The microseconds since the start of the day. -/
def timeMicros (m : Moment) : Nat :=
  ((m.hour * 60 + m.minute) * 60 + m.second) * 1000000 + m.micro

/-- The microseconds since the start of day 0. -/
def micros (m : Moment) : Nat :=
  m.date.ordinal * dayMicros + m.timeMicros

/-- The moment a number of microseconds after the start of day 0. -/
def ofMicros? (n : Nat) : Option Moment := do
  let date ← Date.ofOrdinal? (n / dayMicros)
  let t := n % dayMicros
  let seconds := t / 1000000
  make? date (seconds / 3600) (seconds / 60 % 60) (seconds % 60) (t % 1000000)

/-- The moment moved by a number of microseconds, as long as the calendar has it. -/
def shift? (m : Moment) (by_ : Int) : Option Moment :=
  let n := (m.micros : Int) + by_
  if n < 0 then none else ofMicros? n.toNat

def timeText (m : Moment) : String :=
  Text.padded 2 m.hour ++ ":" ++ Text.padded 2 m.minute ++ ":" ++ Text.padded 2 m.second

/-- The fraction of the second, nothing if it is zero. -/
def fractionText (m : Moment) : String :=
  if m.micro = 0 then "" else "." ++ Text.padded 6 m.micro

/-- The moment to the second, with `T` before the time. -/
def toSeconds (m : Moment) : String :=
  m.date.toText ++ "T" ++ m.timeText

/-- The moment with all that it has, `between` standing before the time. -/
def toText (between : String) (m : Moment) : String :=
  m.date.toText ++ between ++ m.timeText ++ m.fractionText

/-- The text under which a moment is stored: always with six digits of fraction. -/
def toStored (m : Moment) : String :=
  m.date.toText ++ " " ++ m.timeText ++ "." ++ Text.padded 6 m.micro

end Moment

/-- A moment, possibly with an offset from universal time in microseconds. -/
structure Stamp where
  moment : Moment
  offset : Option Int
  deriving DecidableEq, Inhabited

namespace Stamp

/-- The moment in universal time; a stamp without an offset is taken to be there already. -/
def utc? (s : Stamp) : Option Moment :=
  match s.offset with
  | none => some s.moment
  | some offset => s.moment.shift? (-offset)

/-- The seconds and the fraction of an offset, where they are not zero. -/
def offsetTail (colon : String) (micros : Nat) : String :=
  let seconds := micros / 1000000 % 60
  let fraction := micros % 1000000
  if seconds = 0 ∧ fraction = 0 then ""
  else colon ++ Text.padded 2 seconds ++ (if fraction = 0 then "" else "." ++ Text.padded 6 fraction)

/-- An offset as a sign, hours and minutes with `colon` between them. -/
def offsetText (colon : String) (offset : Int) : String :=
  let n := offset.natAbs
  (if offset < 0 then "-" else "+") ++ Text.padded 2 (n / 3600000000) ++ colon ++
    Text.padded 2 (n / 60000000 % 60) ++ offsetTail colon n

/-- The stamp with all that it has, `between` standing before the time. -/
def toText (between : String) (s : Stamp) : String :=
  s.moment.toText between ++ (s.offset.map (offsetText ":")).getD ""

end Stamp

end TableQuery
