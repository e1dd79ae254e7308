import TableQuery.Sql.Value

/-!
# Clauses

The conditions that a query puts on rows, built over the columns of table aliases. `Clause.negate` moves a
negation into a comparison where SQL has an operator for it, and `Clause.conj` and `Clause.disj` drop constants
that change nothing, stop at one that decides, and leave a single clause alone. What a clause means is in
`Sql.Meaning`, its text in `Sql.Printer`.
-/

set_option autoImplicit false

namespace TableQuery.Sql

/-- A column of a table alias. -/
structure Ref where
  source : String
  column : String
  deriving DecidableEq, Repr, Inhabited

/-- A table, under another name if it is renamed. -/
structure Table where
  table : String
  rename : Option String := none
  deriving DecidableEq, Repr, Inhabited

def Table.name (t : Table) : String := t.rename.getD t.table

/-- A condition on the columns of joined tables. -/
inductive Condition where
  | sameAs (left right : Ref)
  | equals (column : Ref) (operand : Operand)
  | among (column : Ref) (operands : List Operand) (negated : Bool)
  deriving DecidableEq, Repr

/-- The rows of a child table that belong to a row of its parent: those whose `child` column is the `parent`
column, and that satisfy the criteria. Their `value` column holds the members of a list. -/
structure Members where
  value : Ref
  table : Table
  child : Ref
  parent : Ref
  criteria : List Condition := []
  deriving DecidableEq, Repr, Inhabited

/-- The members that satisfy one more condition. -/
def Members.where_ (m : Members) (c : Condition) : Members :=
  { m with criteria := m.criteria ++ [c] }

/-- A value computed from a row. -/
inductive Scalar where
  | column (r : Ref)
  /-- Whether a column is missing, or is there if `negated`. -/
  | nullTest (r : Ref) (negated : Bool)
  /-- The number of rows of a group. -/
  | rowCount
  /-- The members of a list, joined by commas. -/
  | joined (m : Members)
  deriving DecidableEq, Repr

/-- Where the values of a column are: computed from the row, or the members of a list. -/
inductive Source where
  | value (s : Scalar)
  | members (m : Members)
  deriving DecidableEq, Repr

/-- What is selected for a source: the value, or the members of the list in one text. -/
def Source.scalar : Source → Scalar
  | value s => s
  | members m => .joined m

def Source.isList : Source → Bool
  | value _ => false
  | members _ => true

/-- A value in the form that a comparison needs. -/
inductive Term where
  | plain (s : Scalar)
  | lower (s : Scalar)
  | asText (s : Scalar)
  | orEmpty (s : Scalar)
  deriving DecidableEq, Repr

/-- An order comparison. -/
inductive Comparison where
  | eq
  | ne
  | lt
  | le
  | gt
  | ge
  deriving DecidableEq, Repr

/-- The comparison that holds when this one does not. -/
def Comparison.negate : Comparison → Comparison
  | eq => ne
  | ne => eq
  | lt => ge
  | ge => lt
  | gt => le
  | le => gt

/-- Whether a comparison holds for two values that compare so. -/
def Comparison.holds : Comparison → Ordering → Bool
  | eq, o => o == .eq
  | ne, o => o != .eq
  | lt, o => o == .lt
  | le, o => o != .gt
  | gt, o => o == .gt
  | ge, o => o != .lt

/-- Exactly one of a comparison and its negation holds. -/
theorem Comparison.holds_negate (c : Comparison) (o : Ordering) : c.negate.holds o = !c.holds o := by
  cases c <;> cases o <;> rfl

/-- A condition on rows. -/
inductive Clause where
  | const (value : Bool)
  /-- The constant that a conjunction or a disjunction came down to. -/
  | decided (value : Bool)
  | nullTest (s : Scalar) (negated : Bool)
  | compare (c : Comparison) (t : Term) (operand : Operand)
  | among (t : Term) (operands : List Operand) (negated : Bool)
  | like (t : Term) (pattern : Operand) (escaped negated : Bool)
  | regexp (t : Term) (pattern : Operand) (negated : Bool)
  /-- Some member is there. -/
  | anyMember (m : Members)
  /-- The number of different members is, or is not, the given one. -/
  | memberCount (m : Members) (count : Nat) (negated : Bool)
  | not (c : Clause)
  | and (cs : List Clause)
  | or (cs : List Clause)
  deriving Repr

namespace Clause

/-- The clause that holds when this one is false. -/
def negate : Clause → Clause
  | const b => const !b
  | decided b => const !b
  | nullTest s n => nullTest s !n
  | compare c t v => compare c.negate t v
  | among t vs n => among t vs !n
  | like t p e n => like t p e !n
  | regexp t p n => regexp t p !n
  | memberCount m k n => memberCount m k !n
  | c => not c

/-- A constant clause with the given value. -/
def isConst (value : Bool) : Clause → Bool
  | const b => b == value
  | _ => false

/-- The clauses that count in a list under an operation whose neutral value is `neutral`: a constant of the
other value decides alone, constants of the neutral value drop out, and if nothing is left the neutral value
remains. -/
def simplified (neutral : Bool) (cs : List Clause) : List Clause :=
  if cs.any (isConst !neutral) then [decided !neutral]
  else match cs.filter (!isConst neutral ·) with
    | [] => [decided neutral]
    | rest => rest

def conj (cs : List Clause) : Clause :=
  match simplified true cs with
  | [c] => c
  | cs => and cs

def disj (cs : List Clause) : Clause :=
  match simplified false cs with
  | [c] => c
  | cs => or cs

end Clause

end TableQuery.Sql
