import TableQuery.Column.Kind
import TableQuery.Calendar.Iso
import TableQuery.Fault
import TableQuery.Json.Display
import TableQuery.Json.Parser
import TableQuery.Number.Decimal

/-!
# Cells

A `Cell` is a value as it comes out of the store: a JSON value, a date, a point in time, a decimal number, or a
fixed row of values. `ColumnType.render` turns it into the JSON value that a client sees in a column of that
type, which fails only for values that the type cannot hold.
-/

set_option autoImplicit false

namespace TableQuery

/-- A value before it is rendered. -/
inductive Cell where
  | json (j : Json)
  | date (d : Date)
  | stamp (s : Stamp)
  | decimal (d : Number.Decimal)
  | tuple (items : List Json)
  deriving Inhabited

namespace Cell

/-- Whether a cell counts as true. -/
def truthy : Cell → Bool
  | json j => j.truthy
  | date _ | stamp _ => true
  | decimal d => d.isNonzero
  | tuple items => !items.isEmpty

def toText : Cell → String
  | json j => j.bare
  | date d => d.toText
  | stamp s => s.toText " "
  | decimal d => d.toText
  | tuple [x] => "(" ++ x.display ++ ",)"
  | tuple items => "(" ++ ", ".intercalate (Json.displayItems items) ++ ")"

/-- The cell as JSON, written out where JSON has no such value. -/
def toJson : Cell → Json
  | json j => j
  | tuple items => .arr items
  | c => .str c.toText

/-- The date of a cell, or its text if it has none. -/
def renderDate : Cell → String
  | stamp s => s.moment.date.toText
  | c => c.toText

/-- The point in time of a cell: in universal time and to the second. A text is read; a missing offset means
universal time. -/
def renderMoment : Cell → Except Fault String
  | stamp s => finish s
  | json (.str s) => do finish (← Fault.badValue.orElse (Iso.stamp? s))
  | _ => .error .missingPart
where
  /-- The text of a stamp. -/
  finish (s : Stamp) : Except Fault String := do
    let m ← Fault.outOfRange.orElse s.utc?
    .ok (m.toSeconds ++ "Z")

/-- The whole number of a cell. Decimals are rounded, a half going to the even neighbour, and doubles lose their
fraction. -/
def renderInt : Cell → Except Fault Int
  | decimal (.infinite _) => .error .outOfRange
  | decimal (.nan _ true _) => .error .undefinedNumber
  | decimal d => Fault.badValue.orElse d.nearest?
  | json (.num (.int n)) => .ok n
  | json (.num (.double .nan)) => .error .badValue
  | json (.num (.double x)) => Fault.outOfRange.orElse x.truncate?
  | json (.bool b) => .ok (if b then 1 else 0)
  | json (.str s) => Fault.badValue.orElse (Number.readInteger? s)
  | _ => .error .wrongKind

/-- Values in increasing order, if all of them can be compared; fewer than two values need no order. -/
def sortValues (items : List Json) : Except Fault (List Json) :=
  if items.length < 2 then .ok items
  else if items.all fun a => items.all fun b => (a.less? b).isSome then
    .ok (items.mergeSort fun a b => b.less? a != some true)
  else .error .wrongKind

/-- The members of a list cell in increasing order; a text holds them between commas. -/
def renderMembers : Cell → Except Fault (List Json)
  | json (.arr items) => sortValues items
  | tuple items => sortValues items
  | c => sortValues ((Text.fields (· == ',') c.toText).map .str)

/-- What a text that is not read as JSON is to a cell. -/
def parseFault : Json.ParseFault → Fault
  | .malformed _ => .notJson
  | .longInteger => .badValue
  | .deepNesting => .deepNesting

/-- The structured value of a cell, read from its text if it has one. -/
def renderStructured : Cell → Except Fault Json
  | json (.str s) => (Json.parse s).mapError parseFault
  | c => .ok c.toJson

def isMissing : Cell → Bool
  | json .null => true
  | _ => false

end Cell

namespace Kind

/-- The JSON value of a cell that is not missing. -/
def render : Kind → Cell → Except Fault Json
  | bool, c => .ok (.bool c.truthy)
  | date, c => .ok (.str c.renderDate)
  | moment, c => c.renderMoment.map .str
  | int, c | count, c => c.renderInt.map .int
  | string, c | text, c | uuid, c | dict, c => .ok (.str c.toText)
  | uuidList, c | dictList, c => c.renderMembers.map .arr
  | list, c | object, c => c.renderStructured

end Kind

/-- The JSON value of a cell: what is missing stays missing, except that a list becomes empty. -/
def ColumnType.render (t : ColumnType) (c : Cell) : Except Fault Json :=
  if c.isMissing then .ok (if t.isList then .arr [] else .null)
  else t.kind.render c

end TableQuery
