import TableQuery.Json.Display
import TableQuery.Number.Extended
import TableQuery.Number.Numeral
import TableQuery.Sql.Value

/-!
# What a column makes of a value

A stored column prefers values of one kind. A text column turns numbers into text; a number column turns text
that writes a number into that number, and whole doubles into integers, or integers into doubles if it holds
these; what cannot be turned stays as it is. Columns of truth values, dates and points in time take nothing else
(`StoredKind.store`).
-/

set_option autoImplicit false

namespace TableQuery

open Sql (Value)
open Number (Double)

/-- What a stored column holds. -/
inductive StoredKind where
  | text
  | int
  | real
  | bool
  | date
  | moment
  deriving DecidableEq, Repr

/-- Why a row cannot be stored. -/
inductive RowFault where
  /-- A text that does not write a date or a point in time. -/
  | badDate
  /-- Something else than a text in place of a date or a point in time. -/
  | notText
  | notBoolean
  /-- A list or an object. -/
  | structured
  | outOfRange
  /-- A value is missing, taken already, or no number where the rows are numbered. -/
  | ruleBroken
  deriving DecidableEq, Repr

def RowFault.name : RowFault → String
  | badDate => "ValueError"
  | notText => "TypeError"
  | notBoolean => "StatementError"
  | structured => "ProgrammingError"
  | outOfRange => "OverflowError"
  | ruleBroken => "IntegrityError"

namespace Sql.Value

def isNumberBlank (c : Char) : Bool := (9 ≤ c.toNat && c.toNat ≤ 13) || c == ' '

/-- The exponent at the end of a written number. -/
def readExponent? : List Char → Option Int
  | [] => some 0
  | c :: r =>
    if c = 'e' ∨ c = 'E' then
      let (negative, ds) := Number.splitSign r
      (Text.readNat? Text.asciiDigit? ds).map (Number.withSign negative)
    else none

/-- A double as a number column stores it: as an integer if it is a whole number well within the range of
integers. The store does not keep the sign of a zero. -/
def ofDouble (x : Double) : Value :=
  match x.toInt? with
  | some n => if n.natAbs < Nat.pow 2 63 then int n else real x
  | none => real x

/-- The number that a text writes, if it writes one. -/
def ofNumeral? (s : String) : Option Value :=
  let (negative, cs) := Number.splitSign (Text.strip isNumberBlank s.toList)
  let whole := cs.takeWhile Char.isDigit
  let rest := cs.dropWhile Char.isDigit
  let (fraction, exponent) := match rest with
    | '.' :: r => (r.takeWhile Char.isDigit, r.dropWhile Char.isDigit)
    | r => ([], r)
  match Text.readNat? Text.asciiDigit? (whole ++ fraction), readExponent? exponent with
  | some n, some e =>
    let number := Number.withSign negative n
    if rest.isEmpty && fitsStore number then some (int number)
    else some (ofDouble (Double.ofScientific negative n (e - fraction.length)))
  | _, _ => none

def asReal : Value → Value
  | int n => real (Double.ofInt n)
  | v => v

def asStoredText : Value → Value
  | real x => text (if x.isNonzero then x else .finite false 0).toStoredText
  | int n => text (toString n)
  | v => v

end Sql.Value

namespace StoredKind

/-- A plain value in the kind that a column prefers. -/
def prefer : StoredKind → Value → Value
  | text, v => v.asStoredText
  | real, .text s => (((Value.ofNumeral? s).getD (.text s))).asReal
  | real, .real x => .real (if x.isNonzero then x else .finite false 0)
  | real, v => v.asReal
  | _, .text s => (Value.ofNumeral? s).getD (.text s)
  | _, .real x => .ofDouble x
  | _, v => v

/-- The stored form of a JSON value that is no truth value, date or point in time. -/
def storePlain (k : StoredKind) : Json → Except RowFault Value
  | .null => .ok .null
  | .bool b => .ok (k.prefer (.ofBool b))
  | .num (.int n) => if Value.fitsStore n then .ok (k.prefer (.int n)) else .error .outOfRange
  | .num (.double x) => .ok (k.prefer (.real x))
  | .str s => .ok (k.prefer (.text s))
  | .arr _ | .obj _ => .error .structured

/-- The stored form of a JSON value. -/
def store (k : StoredKind) (j : Json) : Except RowFault Value :=
  match k, j with
  | _, .null => .ok .null
  | date, .str s => match Iso.date? s with
    | some d => .ok (.text d.toText)
    | none => .error .badDate
  | moment, .str s => match Iso.stamp? s with
    | some t => .ok (.text t.moment.toStored)
    | none => .error .badDate
  | date, _ | moment, _ => .error .notText
  | bool, j =>
    if j.same (.bool true) then .ok (.ofBool true)
    else if j.same (.bool false) then .ok (.ofBool false)
    else .error .notBoolean
  | k, j => k.storePlain j

end StoredKind

end TableQuery
