import TableQuery.Entity.Joins
import TableQuery.Entity.Registry
import TableQuery.Request.Request

/-!
# From a request to a query

`Request.plan` makes the query for a request of an entity. It joins the tables that define the rows of the
entity, then those of the columns in the order of their first use, then those of custom filters. A distinct
request groups by what it selects, the count aside. A filter that lets everything pass puts no clause on the
rows.
-/

set_option autoImplicit false

namespace TableQuery

open Sql (Query)

namespace Request

/-- The names of the joins that a request needs, in order, possibly repeated. -/
def neededJoins (config : EntityConfig) (r : Request) : List String :=
  (config.joins.filter (·.required)).map (·.name) ++ r.columns.filterMap (·.join) ++ r.filter.joins

/-- The clauses of a request in the scope of a facility. -/
def clausesIn (e : Entity) (facility : Option String) (r : Request) : List Sql.Clause :=
  e.scopeClauses facility ++ if r.filter.isAlways then [] else [r.filter.clause false]

/-- The query for a request, before anything is joined. -/
def unjoined (e : Entity) (facility : Option String) (r : Request) : Query :=
  { base := e.base,
    columns := r.select.map fun c => (c.scalar, c.name),
    clauses := r.clausesIn e facility,
    groupBy := if r.distinct then (r.select.filter (·.isData)).map (·.scalar) else [],
    orderBy := r.sort.map fun (c, desc) => (c.scalar, desc),
    limit := some r.size,
    offset := some r.offset }

/-- The query for a request of an entity in the scope of a facility. -/
def plan (e : Entity) (facility : Option String) (r : Request) : Except ConfigError Query :=
  match (r.unjoined e facility).joinAll e.config.joins (r.neededJoins e.config) with
  | (q, none) => .ok q
  | (_, some error) => .error error

end Request

end TableQuery
