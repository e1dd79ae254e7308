import TableQuery.Column.Kind
import TableQuery.Calendar.Iso
import TableQuery.Fault
import TableQuery.Json.Display
import TableQuery.Text.Blank

/-!
# Operands

A `Rule` says which JSON values an operator takes on a column and what value it compares with. `Rule.read`
checks a value and gives the operand or what is wrong with it; `Rule.prepare` gives the operand without the
checks, so that it may be of any kind.

The written forms of identifiers, dates and date-times are matched first, by shape: a digit of any script counts
as a digit there, and one line feed may follow. What matches is then read strictly.
-/

set_option autoImplicit false

namespace TableQuery

/-- A value that a filter compares with. -/
inductive Operand where
  | null
  | bool (b : Bool)
  | int (n : Int)
  | real (x : Number.Double)
  | text (s : String)
  | date (d : Date)
  | moment (m : Moment)
  /-- A list or an object, which nothing can be compared with. -/
  | structured
  deriving DecidableEq, Repr, Inhabited

/-- What is wrong with an operand. -/
inductive Problem where
  | notBoolean
  | notInteger
  | notText
  | untrimmed
  | notUuid
  | notDateShaped
  | notDate
  | notMomentShaped
  | notMoment
  deriving DecidableEq, Repr

def Problem.message : Problem → String
  | notBoolean => "The value must be a boolean."
  | notInteger => "The value must be an integer."
  | notText => "The value must be a string."
  | untrimmed => "The value must not have leading or trailing whitespace."
  | notUuid => "The value must be a valid lowercase UUID."
  | notDateShaped => "The value must be a date in the YYYY-MM-DD format."
  | notDate => "The value must be a valid date."
  | notMomentShaped => "The value must be an ISO 8601 date-time in UTC."
  | notMoment => "The value must be a valid date-time."

/-! ## Shapes -/

namespace Shape

/-- A position of a shape. -/
inductive Mark where
  /-- A lower case hexadecimal digit. -/
  | hex
  /-- A decimal digit of any script. -/
  | digit
  | only (c : Char)

/-- Whether a character may stand at a position. -/
def Mark.admits : Mark → Char → Bool
  | hex, c => ('0' ≤ c && c ≤ '9') || ('a' ≤ c && c ≤ 'f')
  | digit, c => (Text.digitValue? c).isSome
  | only d, c => c == d

/-- The shape that a pattern writes: `x` for a hexadecimal digit, `0` for a decimal one, all else for itself. -/
def ofPattern (s : String) : List Mark :=
  s.toList.map fun c => if c = 'x' then .hex else if c = '0' then .digit else .only c

/-- The characters after a shape at the front. -/
def after? : List Mark → List Char → Option (List Char)
  | [], cs => some cs
  | m :: ms, c :: cs => if m.admits c then after? ms cs else none
  | _ :: _, [] => none

/-- Nothing is left, or one line feed. -/
def atEnd (cs : List Char) : Bool :=
  cs.isEmpty || cs == ['\n']

def fits (shape : List Mark) (s : String) : Bool :=
  ((after? shape s.toList).map atEnd).getD false

def uuid : List Mark := ofPattern "xxxxxxxx-xxxx-xxxx-xxxx-xxxxxxxxxxxx"

def date : List Mark := ofPattern "0000-00-00"

/-- The shapes of date-times: without seconds, with seconds, and with three or six digits of fraction; each in
universal time. -/
def moments : List (List Mark) :=
  ["0000-00-00T00:00", "0000-00-00T00:00:00", "0000-00-00T00:00:00.000", "0000-00-00T00:00:00.000000"].flatMap
    fun p => [ofPattern p ++ [.only 'Z'], ofPattern p ++ ['+', '0', '0', ':', '0', '0'].map Mark.only]

end Shape

/-- The text is a lower case identifier. -/
def isUuid (s : String) : Bool := Shape.fits Shape.uuid s

def isDateShaped (s : String) : Bool := Shape.fits Shape.date s

/-- The text has the shape of a date-time in universal time. -/
def isMomentShaped (s : String) : Bool := Shape.moments.any (Shape.fits · s)

/-- The moment in universal time that a text writes. -/
def readUtc? (s : String) : Option Moment :=
  (Iso.stamp? (String.ofList (s.toList.flatMap fun c => if c = 'Z' then "+00:00".toList else [c]))).bind Stamp.utc?

/-! ## Rules -/

/-- Which values an operator takes. -/
inductive Rule where
  | bool
  | int
  | string
  | trimmed
  | uuid
  | date
  | moment
  deriving DecidableEq, Repr

namespace Rule

def name : Rule → String
  | bool => "bool"
  | int => "int"
  | string => "string"
  | trimmed => "trimmed_string"
  | uuid => "uuid"
  | date => "date"
  | moment => "datetime"

/-- The operand that a value is under a rule, or what is wrong with it. -/
def read : Rule → Json → Except Problem Operand
  | bool, .bool b => .ok (.bool b)
  | bool, _ => .error .notBoolean
  | int, .num (.int n) => .ok (.int n)
  | int, _ => .error .notInteger
  | string, .str s => .ok (.text s)
  | string, _ => .error .notText
  | trimmed, .str s => if Text.isTrimmed s then .ok (.text s) else .error .untrimmed
  | trimmed, _ => .error .notText
  | uuid, .str s => if isUuid s then .ok (.text s) else .error .notUuid
  | uuid, _ => .error .notUuid
  | date, .str s =>
    if isDateShaped s then
      match Iso.date? s with
      | some d => .ok (.date d)
      | none => .error .notDate
    else .error .notDateShaped
  | date, _ => .error .notDateShaped
  | moment, .str s =>
    if isMomentShaped s then
      match readUtc? s with
      | some m => .ok (.moment m)
      | none => .error .notMoment
    else .error .notMomentShaped
  | moment, _ => .error .notMomentShaped

/-- The operand that a value is taken for without checking it. -/
def prepare : Rule → Json → Except Fault Operand
  | date, .str s => Fault.badValue.orElse ((Iso.date? s).map .date)
  | moment, .str s => Fault.badValue.orElse ((readUtc? s).map .moment)
  | date, _ => .error .wrongKind
  | moment, _ => .error .missingPart
  | _, .null => .ok .null
  | _, .bool b => .ok (.bool b)
  | _, .num (.int n) => .ok (.int n)
  | _, .num (.double x) => .ok (.real x)
  | _, .str s => .ok (.text s)
  | _, .arr _ | _, .obj _ => .ok .structured

/-- What a rule accepts it prepares. -/
theorem prepare_of_read {r : Rule} {j : Json} {v : Operand} (h : r.read j = .ok v) : r.prepare j = .ok v := by
  unfold read at h
  split at h <;> first
    | (cases h; rfl)
    | (split at h <;> first
        | (cases h; rfl)
        | cases h
        | (split at h <;> cases h; simp_all [prepare, Fault.orElse]))
    | cases h

end Rule

namespace ColumnType

/-- The rule for the operand of an operator, or for each member of a list operand; columns of structured values
and the count have none, except for the textual operators. -/
def rule? (t : ColumnType) (o : Operator) : Option Rule :=
  if o.isTextual then some .string
  else match t.kind with
    | .string | .text => some (if o.needsTrimmed then .trimmed else .string)
    | .bool => some .bool
    | .int => some .int
    | .uuid | .dict | .uuidList | .dictList => some .uuid
    | .date => some .date
    | .moment => some .moment
    | .list | .object | .count => none

def noRuleMessage (t : ColumnType) : String :=
  "Type " ++ t.name ++ " has no value validator"

/-- An operator that a kind accepts has a rule for its operand. -/
theorem rule?_isSome (t : ColumnType) (o : Operator) (h : t.kind.accepts o = true) : (t.rule? o).isSome := by
  unfold rule?
  cases hk : t.kind <;> simp_all [Kind.accepts] <;> split <;> rfl

end ColumnType

end TableQuery
