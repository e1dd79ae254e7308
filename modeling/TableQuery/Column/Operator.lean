/-!
# Filter operators

The operators of column filters with the symbols that requests write for them, and the groups that decide what
operand an operator takes.
-/

set_option autoImplicit false

namespace TableQuery

/-- An operator of a column filter. -/
inductive Operator where
  | null
  | equal
  | exact
  | oneOf
  | greater
  | less
  | atLeast
  | atMost
  | endsWith
  | startsWith
  | contains
  | like
  | regexp
  | has
  | hasAll
  | hasAny
  | hasOnly
  deriving DecidableEq, Repr, Inhabited

namespace Operator

def symbol : Operator → String
  | null => "null"
  | equal => "="
  | exact => "=="
  | oneOf => "in"
  | greater => ">"
  | less => "<"
  | atLeast => ">="
  | atMost => "<="
  | endsWith => "%v"
  | startsWith => "v%"
  | contains => "%v%"
  | like => "lv"
  | regexp => "/v/"
  | has => "has"
  | hasAll => "has_all"
  | hasAny => "has_any"
  | hasOnly => "has_only"

/-- All operators in the order of their symbols. -/
def all : List Operator :=
  [endsWith, contains, regexp, less, atMost, equal, exact, greater, atLeast, has, hasAll, hasAny, hasOnly, oneOf, like,
    null, startsWith]

def ofSymbol? (s : String) : Option Operator :=
  all.find? (·.symbol == s)

def isComparison : Operator → Bool
  | greater | less | atLeast | atMost => true
  | _ => false

/-- The operators that look at the text of a value. -/
def isTextual : Operator → Bool
  | endsWith | startsWith | contains | like | regexp => true
  | _ => false

def isSetRelation : Operator → Bool
  | hasAll | hasAny | hasOnly => true
  | _ => false

/-- The operators that take a list whatever the column. -/
def takesList : Operator → Bool
  | oneOf | hasAll | hasAny | hasOnly => true
  | _ => false

/-- The operators whose text operand must be trimmed. -/
def needsTrimmed : Operator → Bool
  | equal | exact | oneOf | has | hasAll | hasAny | hasOnly => true
  | _ => false

/-- No operator is missing from `all`. -/
theorem mem_all (o : Operator) : o ∈ all := by
  cases o <;> decide

/-- An operator is found under its symbol. -/
theorem ofSymbol?_symbol (o : Operator) : ofSymbol? o.symbol = some o := by
  cases o <;> decide +kernel

end Operator

end TableQuery
