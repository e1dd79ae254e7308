import TableQuery.Column.Operator

/-!
# Column types

A `Kind` is what the client knows of a column's values; a `ColumnType` is what the server declares: a kind,
whether values may be missing, and two kinds of computed truth values. The operators that a column accepts
follow from its kind, `null` being added where values may be missing.
-/

set_option autoImplicit false

namespace TableQuery

/-- What values a column has, as its schema tells. -/
inductive Kind where
  | bool
  | date
  | moment
  | int
  | string
  | text
  | uuid
  | dict
  | uuidList
  | dictList
  | list
  | object
  | count
  deriving DecidableEq, Repr, Inhabited

/-- The declared type of a column. -/
inductive ColumnType where
  | plain (kind : Kind)
  | boolNullable
  | dateNullable
  | momentNullable
  /-- A number stored with a fraction and shown without. -/
  | wholeNullable
  | intNullable
  | stringNullable
  | textNullable
  | uuidNullable
  | dictNullable
  /-- Whether some value is missing. -/
  | isNull
  /-- Whether some value is there. -/
  | isNotNull
  deriving DecidableEq, Repr, Inhabited

namespace Kind

def name : Kind → String
  | bool => "bool"
  | date => "date"
  | moment => "datetime"
  | int => "int"
  | string => "string"
  | text => "text"
  | uuid => "uuid"
  | dict => "dict"
  | uuidList => "uuid_list"
  | dictList => "dict_list"
  | list => "list"
  | object => "object"
  | count => "count"

def all : List Kind :=
  [bool, date, moment, int, string, text, uuid, dict, uuidList, dictList, list, object, count]

/-- Columns with a set of identifiers in each row. -/
def isList : Kind → Bool
  | uuidList | dictList => true
  | _ => false

/-- Columns whose values are positions of a dictionary. -/
def isDict : Kind → Bool
  | dict | dictList => true
  | _ => false

/-- Columns that rows can be sorted by. -/
def isSortable : Kind → Bool
  | uuid | text | uuidList | dictList | list | object => false
  | _ => true

/-- The operators of a kind, `null` aside. -/
def accepts : Kind → Operator → Bool
  | bool, o => o = .equal
  | date, o => o = .equal || o = .oneOf || o.isComparison
  | moment, o => o.isComparison
  | int, o => o = .equal || o = .oneOf || o.isComparison || o.isTextual
  | string, o => o = .equal || o = .exact || o = .oneOf || o.isComparison || o.isTextual
  | text, o => o.isTextual
  | uuid, o | dict, o => o = .equal || o = .oneOf
  | uuidList, o | dictList, o => o = .equal || o = .has || o.isSetRelation
  | list, _ | object, _ | count, _ => false

/-- No kind accepts the null operator by itself. -/
theorem accepts_null (k : Kind) : k.accepts .null = false := by
  cases k <;> rfl

end Kind

namespace ColumnType

/-- The kind of a column's values. -/
def kind : ColumnType → Kind
  | plain k => k
  | boolNullable | isNull | isNotNull => .bool
  | dateNullable => .date
  | momentNullable => .moment
  | wholeNullable | intNullable => .int
  | stringNullable => .string
  | textNullable => .text
  | uuidNullable => .uuid
  | dictNullable => .dict

def name : ColumnType → String
  | plain k => k.name
  | boolNullable => "bool_nullable"
  | dateNullable => "date_nullable"
  | momentNullable => "datetime_nullable"
  | wholeNullable => "decimal0_nullable"
  | intNullable => "int_nullable"
  | stringNullable => "string_nullable"
  | textNullable => "text_nullable"
  | uuidNullable => "uuid_nullable"
  | dictNullable => "dict_nullable"
  | isNull => "is_null"
  | isNotNull => "is_not_null"

def all : List ColumnType :=
  Kind.all.map plain ++
    [boolNullable, dateNullable, momentNullable, wholeNullable, intNullable, stringNullable, textNullable, uuidNullable,
      dictNullable, isNull, isNotNull]

def ofName? (s : String) : Option ColumnType :=
  all.find? (·.name == s)

def isNullTest : ColumnType → Bool
  | isNull | isNotNull => true
  | _ => false

/-- Columns whose values may be missing; a list column counts as missing when it is empty. -/
def isNullable : ColumnType → Bool
  | plain k => k.isList
  | isNull | isNotNull => false
  | _ => true

/-- The type that a computed truth value has once it is computed. -/
def base (t : ColumnType) : ColumnType :=
  if t.isNullTest then plain .bool else t

/-- The type without missing values. -/
def notNull (t : ColumnType) : ColumnType :=
  if t.isNullTest then t else plain t.kind

/-- A column with a set of identifiers in each row. -/
abbrev isList (t : ColumnType) : Bool := t.kind.isList

/-- Whether a filter may use an operator on a column. -/
def accepts (t : ColumnType) (o : Operator) : Bool :=
  t.kind.accepts o || (o = .null && t.isNullable)

def takesList (t : ColumnType) (o : Operator) : Bool :=
  o.takesList || (o = .equal && t.isList)

/-- No type is missing from `all`. -/
theorem mem_all (t : ColumnType) : t ∈ all := by
  rcases t with k | _ <;> first | (cases k <;> decide) | decide

/-- A type is found under its name. -/
theorem ofName?_name (t : ColumnType) : ofName? t.name = some t := by
  rcases t with k | _ <;> first | (cases k <;> decide +kernel) | decide +kernel

end ColumnType

end TableQuery
