import TableQuery.Sql.Query
import TableQuery.Store.Table

/-!
# What a query refers to

A query can only run if every column that it names belongs to one of its tables: the base table, a joined one,
or, inside a list, the table of the members. A join may only refer to its own table and to those before it.
`Query.resolves` checks this against the stored tables.
-/

set_option autoImplicit false

namespace TableQuery.Sql

/-- The tables that columns can be read from, under their names. -/
abbrev Scope := List Table

/-- Whether a column belongs to a table of a scope. -/
def Scope.has (scope : Scope) (r : Ref) : Bool :=
  scope.any fun t => t.name == r.source &&
    ((TableDef.find? t.table).map fun d => d.columnNames.contains r.column).getD false

def Condition.resolves (scope : Scope) : Condition → Bool
  | sameAs l r => scope.has l && scope.has r
  | equals r _ | among r _ _ => scope.has r

/-- Whether the columns of a list are in the scope of its row or of the members. -/
def Members.resolves (scope : Scope) (m : Members) : Bool :=
  let inner : Scope := m.table :: scope
  inner.has m.value && inner.has m.child && inner.has m.parent && m.criteria.all (·.resolves inner)

def Scalar.resolves (scope : Scope) : Scalar → Bool
  | column r | nullTest r _ => scope.has r
  | rowCount => true
  | joined m => m.resolves scope

def Term.resolves (scope : Scope) : Term → Bool
  | plain s | lower s | asText s | orEmpty s => s.resolves scope

namespace Clause

mutual

/-- Whether the columns of a clause are in scope. -/
def resolves (scope : Scope) : Clause → Bool
  | const _ | decided _ => true
  | nullTest s _ => s.resolves scope
  | compare _ t _ | among t _ _ | like t _ _ _ | regexp t _ _ => t.resolves scope
  | anyMember m | memberCount m _ _ => m.resolves scope
  | not c => resolves scope c
  | and cs | or cs => allResolve scope cs

/-- Whether the columns of clauses are in scope. -/
def allResolve (scope : Scope) : List Clause → Bool
  | [] => true
  | c :: cs => resolves scope c && allResolve scope cs

end

end Clause

namespace Query

/-- Whether the conditions of joins refer to their own tables and to those before. -/
def joinsResolve : Scope → List Join → Bool
  | _, [] => true
  | scope, j :: js =>
    let scope := scope ++ [j.table]
    j.on.all (·.resolves scope) && joinsResolve scope js

def scope (q : Query) : Scope := q.base :: q.joins.map (·.table) ++ q.crossed

/-- Whether every column that a query names belongs to one of its tables. -/
def resolves (q : Query) : Bool :=
  joinsResolve [q.base] q.joins && q.columns.all (·.1.resolves q.scope) &&
    q.clauses.all (·.resolves q.scope) && q.groupBy.all (·.resolves q.scope) && q.orderBy.all (·.1.resolves q.scope)

end Query

end TableQuery.Sql
