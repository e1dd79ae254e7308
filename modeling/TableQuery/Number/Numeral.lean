import TableQuery.Text.Blank
import TableQuery.Text.Digit

/-!
# Written integers

Three readers of integers. `readDigits?` takes digits in groups joined by single underscores; `readInteger?`
also takes blanks around and a sign, and the digits of any script; `readWireInteger` is the rule for integers
that a request sends as text, which has its own way with zeros: those in front are dropped, together with
underscores among them, and so is a fraction of zeros. No reader takes more than `digitLimit` digits.
-/

set_option autoImplicit false

namespace TableQuery.Number

/-- The greatest number of digits that a written integer may have. -/
def digitLimit : Nat := 4300

/-- The sign of a written number and the characters after it. -/
def splitSign : List Char → Bool × List Char
  | '-' :: r => (true, r)
  | '+' :: r => (false, r)
  | cs => (false, cs)

/-- Groups of digits, single underscores between them. -/
def readDigits? (digit? : Char → Option Nat) (cs : List Char) : Option Nat :=
  let groups := Text.pieces (· == '_') cs
  if groups.any List.isEmpty || digitLimit < groups.flatten.length then none
  else Text.readNat? digit? groups.flatten

def withSign (negative : Bool) (n : Nat) : Int :=
  if negative then -(n : Int) else n

/-- The blanks that may stand around an integer: all but the four separator controls. -/
def isNumeralBlank (c : Char) : Bool :=
  Text.isBlank c && !(28 ≤ c.toNat && c.toNat ≤ 31)

/-- An integer with a sign and digits of any script, blanks around it allowed. -/
def readInteger? (s : String) : Option Int :=
  let (negative, ds) := splitSign (Text.strip isNumeralBlank s.toList)
  (readDigits? Text.digitValue? ds).map (withSign negative)

/-- Why a text sent in place of an integer is not taken. -/
inductive WireFault where
  | malformed
  | oversized
  deriving DecidableEq, Repr, Inhabited

/-- What is left of a number after zeros and underscores at its front, of which `last` was the latest: all from
the first other digit or a minus on, or a single zero before a point, or just the last character. -/
def afterZeros? (last : Char) : List Char → Option (List Char)
  | [] => some [last]
  | c :: r =>
    if c = '0' ∨ c = '_' then afterZeros? c r
    else if c = '-' ∨ c.isDigit then some (c :: r)
    else if c = '.' then some (last :: c :: r)
    else none

/-- A number without the zeros in front; it has to start with a digit or a minus. -/
def withoutZeros? : List Char → Option (List Char)
  | [] => none
  | c :: r =>
    if c = '0' then afterZeros? c r
    else if c = '-' ∨ c.isDigit then some (c :: r)
    else none

/-- The characters before the first point, if zeros and nothing else follow it; else all characters. -/
def withoutZeroFraction (cs : List Char) : List Char :=
  let fraction := (cs.dropWhile (· != '.')).drop 1
  if !fraction.isEmpty && fraction.all (· == '0') then cs.takeWhile (· != '.') else cs

/-- The characters without underscores, if these stand alone and between others; else all characters. -/
def withoutUnderscores (cs : List Char) : List Char :=
  let groups := Text.pieces (· == '_') cs
  if groups.any List.isEmpty then cs else groups.flatten

/-- An integer in its plain form: digits without a zero in front, after a minus if it is negative. The minus
counts as a digit. -/
def readPlain (cs : List Char) : Except WireFault Int :=
  let (negative, ds) := match cs with
    | '-' :: r => (true, r)
    | ds => (false, ds)
  match Text.readNat? Text.asciiDigit? ds with
  | none => .error .malformed
  | some n =>
    if ds.head? = some '0' ∧ 1 < ds.length then .error .malformed
    else if digitLimit < cs.length then .error .oversized
    else .ok (withSign negative n)

/-- An integer that a request sends as text, blanks around it and a plus before it allowed. -/
def readWireInteger (s : String) : Except WireFault Int :=
  let unsigned? := match Text.strip isNumeralBlank s.toList with
    | '+' :: '-' :: _ => none
    | '+' :: r => some r
    | cs => some cs
  match unsigned?.bind withoutZeros? with
  | some cs => readPlain (withoutUnderscores (withoutZeroFraction cs))
  | none => .error .malformed

end TableQuery.Number
