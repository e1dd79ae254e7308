import TableQuery.Calendar.Moment

/-!
# Reading dates and times

Dates and times are read in the ISO 8601 forms: years with months and days or with weeks, each with hyphens or
without, and times with colons or without, a fraction, and an offset or `Z`. The reader works on the bytes of
the text. It is lenient where a form cannot be mistaken: any character may stand between date and time, digits
of a fraction beyond the sixth are dropped, and so is what stands between a full fraction and the offset.
-/

set_option autoImplicit false

namespace TableQuery.Iso

abbrev Bytes := List Nat

def bytes (s : String) : Bytes :=
  s.toUTF8.toList.map (·.toNat)

def isDigit (b : Nat) : Bool := 48 ≤ b && b ≤ 57

/-- The number that the next `n` bytes write, and the bytes after them. -/
def number? (n : Nat) (bs : Bytes) : Option (Nat × Bytes) :=
  let ds := bs.take n
  if ds.length = n ∧ ds.all isDigit then some (Text.ofDigits 10 (ds.map (· - 48)), bs.drop n) else none

/-- The bytes after a hyphen, if one is needed. -/
def hyphen? (needed : Bool) (bs : Bytes) : Option Bytes :=
  match needed, bs with
  | false, bs => some bs
  | true, 45 :: r => some r
  | true, _ => none

/-- The date at the front of the bytes, of which it takes up to `len`. A week without a day stands for its
Monday. -/
def datePart? (len : Nat) (bs : Bytes) : Option Date := do
  let (year, r) ← number? 4 bs
  let hyphens := r.head? == some 45
  let r := if hyphens then r.drop 1 else r
  match r with
  | 87 :: r =>
    let (week, r) ← number? 2 r
    if bs.length - r.length < len then
      let r ← hyphen? hyphens r
      let (day, _) ← number? 1 r
      Date.ofWeek? year week day
    else Date.ofWeek? year week 1
  | r =>
    let (month, r) ← number? 2 r
    let r ← hyphen? hyphens r
    let (day, _) ← number? 2 r
    Date.make? year month day

def date? (s : String) : Option Date :=
  let bs := bytes s
  if bs.length = 7 ∨ bs.length = 8 ∨ bs.length = 10 then datePart? bs.length bs else none

/-- The number of bytes of the date at the front of a text with a time. -/
def dateLength (bs : Bytes) : Nat :=
  if bs.length = 7 then 7
  else if bs[4]? = some 45 then
    if bs[5]? = some 87 then
      if bs[8]? = some 45 then
        if (bs[10]?.map isDigit).getD false then 8 else 10
      else 8
    else 10
  else if bs[4]? = some 87 then
    let stop := 7 + ((bs.drop 7).takeWhile isDigit).length
    if stop < 9 then stop else if stop % 2 = 0 then 7 else 8
  else 8

/-- Hours, minutes, seconds and microseconds, and whether something follows them. -/
structure Clock where
  hour : Nat
  minute : Nat
  second : Nat
  micro : Nat
  more : Bool

/-- The clock with its fields in order, missing ones being zero. -/
def Clock.ofFields (fields : List Nat) (micro : Nat) (more : Bool) : Clock :=
  ⟨fields.getD 0 0, fields.getD 1 0, fields.getD 2 0, micro, more⟩

/-- The fraction at the front of the bytes, of which `stop` belong to the clock, after the given fields. -/
def fraction? (fields : List Nat) (bs : Bytes) (stop : Nat) : Option Clock := do
  let places := min stop 6
  let (n, r) ← number? places bs
  let rest := r.dropWhile isDigit
  some (.ofFields fields (n * Nat.pow 10 (6 - places)) (rest.headD 0 != 0))

/-- The fields of a clock after the ones in `fields`, at most `left` of them. `colons` tells whether colons
stand between fields, and is settled after the first one. -/
def fields? : Nat → Option Bool → List Nat → Bytes → Nat → Option Clock
  | 0, _, fields, bs, stop => fraction? fields bs stop
  | left + 1, colons, fields, bs, stop => do
    let (n, r) ← number? 2 bs
    let fields := fields ++ [n]
    let next := r.headD 0
    let colons := colons.getD (next == 58)
    if stop ≤ 3 then some (.ofFields fields 0 (next != 0))
    else if colons && next == 58 then fields? left (some colons) fields (r.drop 1) (stop - 3)
    else if next == 46 || next == 44 then fraction? fields (r.drop 1) (stop - 3)
    else if !colons then fields? left (some colons) fields r (stop - 2)
    else none

/-- The clock at the front of the bytes, of which `stop` belong to it. -/
def clock? (bs : Bytes) (stop : Nat) : Option Clock :=
  fields? 3 none [] bs stop

/-- The offset that the bytes after a sign write, in microseconds; an offset of less than a second is none. -/
def offset? (negative : Bool) (bs : Bytes) : Option Int := do
  let c ← clock? bs bs.length
  if c.more then none
  else
    let seconds := (c.hour * 60 + c.minute) * 60 + c.second
    let n := if seconds = 0 then 0 else seconds * 1000000 + c.micro
    if n < Moment.dayMicros then some (if negative then -n else n) else none

def startsZone (b : Nat) : Bool := b == 43 || b == 45 || b == 90

/-- The time that the bytes write, and its offset if it has one. -/
def time? (bs : Bytes) : Option (Clock × Option Int) := do
  let stop := (bs.takeWhile (!startsZone ·)).length
  let clock ← clock? bs stop
  match bs.drop stop with
  | [] => if clock.more then none else some (clock, none)
  | 90 :: r => if r.headD 0 = 0 then some (clock, some 0) else none
  | sign :: r => (offset? (sign == 45) r).map fun n => (clock, some n)

/-- The number of bytes of the character that starts with a byte. -/
def charLength (b : Nat) : Nat :=
  if b < 128 then 1 else if b / 16 = 14 then 3 else if b / 16 = 15 then 4 else 2

/-- The date, possibly with a time and an offset, that a text writes. -/
def stamp? (s : String) : Option Stamp := do
  let bs := bytes s
  if bs.length < 7 then none
  else
    let len := dateLength bs
    let date ← datePart? len bs
    match bs.drop len with
    | [] => some ⟨.midnight date, none⟩
    | b :: r =>
      let (clock, offset) ← time? ((b :: r).drop (charLength b))
      let moment ← Moment.make? date clock.hour clock.minute clock.second clock.micro
      some ⟨moment, offset⟩

end TableQuery.Iso
