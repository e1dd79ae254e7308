import TableQuery.Calendar.Moment
import TableQuery.Text.Case

/-!
# Formatted dates and times

A format is a text in which a percent sign starts a directive: flags, a width and a modifier, all of which may
be missing, and the letter that says what to write. Names are English and years stand without padding. A
directive that is not known is left as it is, under the width that it gives.

`format` first puts in the offset and the microseconds, which only a bare letter asks for
(`Calendar.withStampParts`), then takes the text apart (`pieces`) and writes the pieces (`Directive.write`). Its
result is empty if there is no room for it, and there is only so much room for each character of the format
(`roomFor`).
-/

set_option autoImplicit false

namespace TableQuery.Calendar

/-- The names of the days of the week, from Monday. -/
def dayNames : List String := ["Monday", "Tuesday", "Wednesday", "Thursday", "Friday", "Saturday", "Sunday"]

def monthNames : List String :=
  ["January", "February", "March", "April", "May", "June", "July", "August", "September", "October", "November",
    "December"]

def clockHour (hour : Nat) : Nat :=
  if hour % 12 = 0 then 12 else hour % 12

/-- The number of the week in the year, weeks starting on the day with number `start` from Monday. -/
def weekOfYear (date : Date) (start : Nat) : Nat :=
  (date.dayOfYear - 1 + 7 - (date.weekday + 7 - start) % 7) / 7

/-- The offset and the microseconds of a stamp in the places of the bare directives that ask for them. A format
ends at a null character. -/
def withStampParts (s : Stamp) : List Char → List Char
  | '%' :: c :: r =>
    if c = '\x00' then ['%']
    else
      let part :=
        if c = 'f' then (Text.padded 6 s.moment.micro).toList
        else if c = 'z' then ((s.offset.map (Stamp.offsetText "")).getD "").toList
        else if c = 'Z' then
          (match s.offset with
            | none => ""
            | some 0 => "UTC"
            | some n => "UTC" ++ Stamp.offsetText ":" n).toList
        else ['%', c]
      part ++ withStampParts s r
  | c :: r => if c = '\x00' then [] else c :: withStampParts s r
  | [] => []

/-! ## Directives -/

/-- What a directive asks for besides its letter. -/
structure Directive where
  /-- The padding asked for: `'-'` for none, `'_'` for blanks, `'0'` for zeros. -/
  padding : Option Char := none
  upperCase : Bool := false
  swapCase : Bool := false
  width : Nat := 0
  /-- Another calendar (`'E'`) or other digits (`'O'`); neither makes a difference where it is allowed. -/
  modifier : Option Char := none
  /-- What has been read of the directive after the percent sign, in reverse. -/
  seen : List Char := []

/-- What may still come in a directive. -/
inductive Phase where
  | flags
  | width
  | letter

namespace Directive

/-- The directive with one more character in front of its letter, if it can be one. -/
def take? (d : Directive) (phase : Phase) (c : Char) : Option (Phase × Directive) :=
  let d := { d with seen := c :: d.seen }
  let flag : Option Directive :=
    if c = '-' ∨ c = '_' ∨ c = '0' then some { d with padding := some c }
    else if c = '^' then some { d with upperCase := true }
    else if c = '#' then some { d with swapCase := true }
    else none
  let digit : Option Directive :=
    if c.isDigit then some { d with width := 10 * d.width + (c.toNat - 48) } else none
  let modifier : Option Directive :=
    if c = 'E' ∨ c = 'O' then some { d with modifier := some c } else none
  match phase with
  | .flags => (flag.map (Phase.flags, ·)).or ((digit.map (Phase.width, ·)).or (modifier.map (Phase.letter, ·)))
  | .width => (digit.map (Phase.width, ·)).or (modifier.map (Phase.letter, ·))
  | .letter => none

/-- A text with `c` before it, up to a width. -/
def fill (c : Char) (width : Nat) (s : String) : String :=
  String.ofList (List.replicate (width - s.length) c) ++ s

def padded (d : Directive) (s : String) : String :=
  fill (if d.padding = some '0' then '0' else ' ') d.width s

/-- A text under the width, in upper case if the directive asks for that. -/
def text (d : Directive) (s : String) : String :=
  d.padded (if d.upperCase then String.ofList (s.toList.map Text.upperSingle) else s)

/-- A name under the width; a change of case makes it upper case, too. -/
def name (d : Directive) (s : String) : String :=
  { d with upperCase := d.upperCase || d.swapCase }.text s

/-- A text that is made of several directives; what is put before it is in upper case as well, if the directive
asks. -/
def whole (d : Directive) (s : String) : String :=
  let s := d.padded s
  if d.upperCase then String.ofList (s.toList.map Text.upperSingle) else s

/-- A number of at least `places` digits; before it stands `zero`, unless the directive says otherwise. Without
padding it has blanks before it up to the width. -/
def number (d : Directive) (zero : Char) (places n : Nat) : String :=
  let digits := String.ofList (Text.natDigits n)
  match d.padding with
  | some '-' => fill ' ' d.width digits
  | some '_' => fill ' ' (max d.width places) digits
  | some _ => fill '0' (max d.width places) digits
  | none => fill zero (max d.width places) digits

/-- Whether a modifier may not stand before a letter. -/
def refuses (d : Directive) (letter : Char) : Bool :=
  match d.modifier with
  | none => false
  | some 'E' => "%aADFbhBdeHIjklmMSUVgGWw".toList.contains letter
  | some _ => "%aADFcxXY".toList.contains letter

/-- What a letter stands for under a directive. -/
def part? (d : Directive) (m : Moment) (letter : Char) : Option String :=
  let date := m.date
  let two := d.number '0' 2
  let one := d.number '0' 1
  let blank := d.number ' ' 2
  let plainTwo := Text.padded 2
  let dayName := dayNames.getD date.weekday ""
  let monthName := monthNames.getD (date.month - 1) ""
  let short (s : String) := String.ofList (s.toList.take 3)
  let half := if m.hour < 12 then "AM" else "PM"
  let seconds : Int := ((m.micros / 1000000 : Nat) : Int) - 719163 * 86400
  let slashed := plainTwo date.month ++ "/" ++ plainTwo date.day ++ "/" ++ plainTwo (date.year % 100)
  match letter with
  | '%' => some (d.padded "%")
  | 'n' => some (d.padded "\n")
  | 't' => some (d.padded "\t")
  | 'a' => some (d.name (short dayName))
  | 'A' => some (d.name dayName)
  | 'b' | 'h' => some (d.name (short monthName))
  | 'B' => some (d.name monthName)
  | 'c' => some (d.whole (short dayName ++ " " ++ short monthName ++ " " ++ fill ' ' 2 (toString date.day) ++ " " ++
      m.timeText ++ " " ++ toString date.year))
  | 'C' => some (one (date.year / 100))
  | 'd' => some (two date.day)
  | 'D' | 'x' => some (d.whole slashed)
  | 'e' => some (blank date.day)
  | 'F' => some (d.whole (toString date.year ++ "-" ++ plainTwo date.month ++ "-" ++ plainTwo date.day))
  | 'g' => some (two (date.week.1 % 100))
  | 'G' => some (one date.week.1)
  | 'H' => some (two m.hour)
  | 'I' => some (two (clockHour m.hour))
  | 'j' => some (d.number '0' 3 date.dayOfYear)
  | 'k' => some (blank m.hour)
  | 'l' => some (blank (clockHour m.hour))
  | 'm' => some (two date.month)
  | 'M' => some (two m.minute)
  | 'p' => some (if d.swapCase then d.padded (Text.foldAscii half) else d.text half)
  | 'P' => some (d.padded (Text.foldAscii half))
  | 'r' => some (d.whole (plainTwo (clockHour m.hour) ++ ":" ++ plainTwo m.minute ++ ":" ++ plainTwo m.second ++ " " ++
      half))
  | 'R' => some (d.whole (plainTwo m.hour ++ ":" ++ plainTwo m.minute))
  | 's' => some (d.padded (toString seconds))
  | 'S' => some (two m.second)
  | 'T' | 'X' => some (d.whole m.timeText)
  | 'u' => some (one (date.weekday + 1))
  | 'U' => some (two (weekOfYear date 6))
  | 'V' => some (two date.week.2.1)
  | 'w' => some (one ((date.weekday + 1) % 7))
  | 'W' => some (two (weekOfYear date 0))
  | 'y' => some (two (date.year % 100))
  | 'Y' => some (one date.year)
  | 'z' => some ""
  | 'Z' => some (d.padded "")
  | _ => none

/-- The directive as it was read, from its last percent sign on. -/
def source (d : Directive) (letter : Option Char) : String :=
  if letter = some '%' then "%" else String.ofList ('%' :: d.seen.reverse ++ letter.toList)

def write (d : Directive) (m : Moment) (letter : Option Char) : String :=
  let part := match letter with
    | none => none
    | some c => if d.refuses c then none else d.part? m c
  part.getD ((if letter = some 'b' ∨ letter = some 'h' then d.name else d.text) (d.source letter))

end Directive

/-! ## Formats -/

/-- A piece of a format. -/
inductive Piece where
  | char (c : Char)
  /-- A directive; it has no letter if the format ends before it. -/
  | directive (d : Directive) (letter : Option Char)

/-- What is being read: a plain character or a directive. -/
inductive Reading where
  | outside
  | inside (phase : Phase) (d : Directive)

def pieces : Reading → List Char → List Piece
  | .outside, [] => []
  | .inside _ d, [] => [.directive d none]
  | .outside, c :: r => if c = '%' then pieces (.inside .flags {}) r else .char c :: pieces .outside r
  | .inside phase d, c :: r =>
    match d.take? phase c with
    | some (phase, d) => pieces (.inside phase d) r
    | none => .directive d (some c) :: pieces .outside r

namespace Piece

def write (m : Moment) : Piece → String
  | char c => c.toString
  | directive d letter => d.write m letter

/-- Whether the width of a piece alone leaves no room. -/
def isWiderThan (room : Nat) : Piece → Bool
  | char _ => false
  | directive d letter => room ≤ d.width && letter != some 'z'

end Piece

/-- The room for the text of a format of the given length: 256 characters for each of its own, rounded up to a
power of two that is at least 1024. -/
def roomFor (length : Nat) : Nat :=
  max 1024 (Nat.nextPowerOfTwo (256 * length))

/-- A stamp under a format; nothing if there is not enough room. -/
def format (fmt : String) (s : Stamp) : String :=
  let cs := withStampParts s fmt.toList
  let room := roomFor cs.length
  let ps := pieces .outside cs
  if ps.any (·.isWiderThan room) then ""
  else
    let text := String.join (ps.map (·.write s.moment))
    if text.length < room then text else ""

end TableQuery.Calendar
