import TableQuery.Calendar.Moment
import TableQuery.Column.Operand
import TableQuery.Number.Basic
import TableQuery.Number.Extended
import TableQuery.Text.Surrogate

/-!
# Stored values

What a table holds in a cell: nothing, an integer, a double or a text. Truth values are stored as 0 and 1, dates
and points in time as text. Values are ordered with nothing first, then numbers by value, then texts by code
point; a comparison that involves nothing has no truth value.
-/

set_option autoImplicit false

namespace TableQuery.Sql

open Number (Numeric Double)

/-- A stored value. -/
inductive Value where
  | null
  | int (n : Int)
  | real (x : Double)
  | text (s : String)
  deriving DecidableEq, Repr, Inhabited

namespace Value

/-- The number of a numeric value. -/
def num? : Value → Option Numeric
  | int n => some (.int n)
  | real x => some (.double x)
  | _ => none

/-- The place of a value among the kinds: nothing, numbers, texts. -/
def rank : Value → Nat
  | null => 0
  | int _ | real _ => 1
  | text _ => 2

def compare (a b : Value) : Ordering :=
  match a, b with
  | text s, text t => Ord.compare s t
  | a, b =>
    match a.num?, b.num? with
    | some m, some n => if m.less n then .lt else if n.less m then .gt else .eq
    | _, _ => Ord.compare a.rank b.rank

/-- How two values compare, if neither is missing. -/
def compare? : Value → Value → Option Ordering
  | null, _ | _, null => none
  | a, b => some (a.compare b)

/-- The text of a value that is not missing. -/
def toText? : Value → Option String
  | null => none
  | int n => some (toString n)
  | real x => some x.toStoredText
  | text s => some s

/-- The stored form of a truth value. -/
def ofBool (b : Bool) : Value := int (if b then 1 else 0)

def ofOperand : Operand → Value
  | .null | .structured => null
  | .bool b => ofBool b
  | .int n => int n
  | .real x => real x
  | .text s => text s
  | .date d => text d.toText
  | .moment m => text m.toStored

/-- The least and the greatest integer that the store can hold. -/
def fitsStore (n : Int) : Bool :=
  -9223372036854775808 ≤ n && n ≤ 9223372036854775807

end Value

end TableQuery.Sql

namespace TableQuery

def Operand.fitsStore : Operand → Bool
  | .int n => Sql.Value.fitsStore n
  | .text s => !Text.hasHalf s
  | .structured => false
  | _ => true

end TableQuery
