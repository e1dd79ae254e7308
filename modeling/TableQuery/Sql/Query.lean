import TableQuery.Sql.Clause

/-!
# Queries

A query reads rows of a base table and the tables joined to it, keeps those that satisfy its clauses, and gives the
selected values of each row or each group of rows. `Query.counting` says which rows the total of a query counts.
-/

set_option autoImplicit false

namespace TableQuery.Sql

/-- A table joined under conditions; with `left` set, a row without a partner stays. -/
structure Join where
  table : Table
  on : List Condition
  left : Bool := false
  deriving DecidableEq, Repr, Inhabited

/-- A query. -/
structure Query where
  base : Table
  joins : List Join := []
  /-- Tables that are not joined, but may be read all the same. -/
  loose : List Table := []
  columns : List (Scalar × String) := []
  clauses : List Clause := []
  groupBy : List Scalar := []
  orderBy : List (Scalar × Bool) := []
  limit : Option Int := none
  /-- The number of rows left out; none are if it is zero or not given. -/
  offset : Option Int := none
  deriving Repr, Inhabited

/-- The single clause that stands for all clauses of a query, if there are any. -/
def Query.filter? (q : Query) : Option Clause :=
  if q.clauses.isEmpty then none else some (Clause.conj q.clauses)

/-- The table aliases that a value is read from, those inside a list aside. -/
def Scalar.sources : Scalar → List String
  | .column r | .nullTest r _ => [r.source]
  | .rowCount | .joined _ => []

/-- The table aliases that a term is read from. -/
def Term.sources : Term → List String
  | .plain s | .lower s | .asText s | .orEmpty s => s.sources

mutual

/-- The table aliases that a clause is read from, those inside a list aside. -/
def Clause.sources : Clause → List String
  | .nullTest s _ => s.sources
  | .compare _ t _ | .among t _ _ | .like t _ _ _ | .regexp t _ _ => t.sources
  | .not c => Clause.sources c
  | .and cs | .or cs => Clause.sourcesOfAll cs
  | _ => []

/-- The table aliases that clauses are read from. -/
def Clause.sourcesOfAll : List Clause → List String
  | [] => []
  | c :: cs => Clause.sources c ++ Clause.sourcesOfAll cs

end

/-- The loose tables that selected values or clauses are read from, in the order of their first use: all their
rows are put beside every row of the others. A table that is joined is not loose any more. -/
def Query.crossed (q : Query) : List Table :=
  let used := q.columns.flatMap (·.1.sources) ++ Clause.sourcesOfAll q.clauses
  let isJoined := fun (name : String) => q.joins.any (·.table.name == name)
  used.eraseDups.filterMap fun name => if isJoined name then none else q.loose.find? (·.name == name)

/-- What the total of a query counts. -/
inductive Counting where
  /-- The rows that satisfy the clauses. -/
  | rows (q : Query)
  /-- The groups of those rows. -/
  | groups (q : Query)

/-- The query whose rows are counted for the total: the same without order and paging. -/
def Query.counting (q : Query) : Counting :=
  let plain := { q with orderBy := [], limit := none, offset := none }
  if q.groupBy.isEmpty then .rows { plain with columns := [(.rowCount, "count_1")] } else .groups plain

end TableQuery.Sql
