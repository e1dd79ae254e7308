import TableQuery.Entity.Extension

/-!
# Making joins

A join is made once, after the joins that it depends on (`Query.join`). It fails if it leads to a name that no
join has, or back to itself; what was joined on the way stays joined. The names on the way from the join that
was asked for are all different and all known, which is why the search ends.
-/

set_option autoImplicit false

namespace TableQuery

open Sql (Query)

abbrev JoinDefs := List JoinDef

namespace JoinDefs

/-- The join with a name; the latest one if there are several. -/
def named? (defs : JoinDefs) (name : String) : Option JoinDef :=
  defs.reverse.find? (·.name == name)

/-- The number of joins that are not on a path. -/
def away (defs : JoinDefs) (path : List String) : Nat :=
  defs.countP fun j => !path.contains j.name

/-- A longer path leaves no more joins away. -/
theorem away_append_le (defs : JoinDefs) (path : List String) (name : String) :
    defs.away (path ++ [name]) ≤ defs.away path :=
  List.countP_mono_left fun j _ h => by simp_all

/-- A known name that is not on the path is one less away once it is put there. -/
theorem away_append_lt {defs : JoinDefs} {path : List String} {name : String} {j : JoinDef}
    (hj : defs.named? name = some j) (hp : ¬ path.contains name) : defs.away (path ++ [name]) < defs.away path := by
  have hmem : j ∈ defs := List.mem_reverse.1 (List.mem_of_find?_eq_some hj)
  have hname : j.name = name := by simpa using List.find?_some hj
  obtain ⟨before, after, rfl⟩ := List.append_of_mem hmem
  have hb := away_append_le before path name
  have ha := away_append_le after path name
  simp only [away, List.countP_append, List.countP_cons] at *
  simp_all
  omega

mutual

/-- The names joined after a join has been asked for on a path, and what went wrong. -/
def reach (defs : JoinDefs) (path joined : List String) (name : String) : List String × Option ConfigError :=
  if joined.contains name then (joined, none)
  else if _hp : path.contains name then (joined, some (.circularJoin (path ++ [name])))
  else match _hj : defs.named? name with
    | none => (joined, some (.unknownJoin name))
    | some j =>
      match reachAll defs (path ++ [name]) joined j.dependsOn with
      | (joined, none) => (joined ++ [name], none)
      | failed => failed
termination_by (defs.away path, 0)
decreasing_by exact Prod.Lex.left _ _ (away_append_lt ‹_› ‹_›)

/-- The names joined after several joins have been asked for, up to the first that fails. -/
def reachAll (defs : JoinDefs) (path joined : List String) : List String → List String × Option ConfigError
  | [] => (joined, none)
  | name :: names =>
    match reach defs path joined name with
    | (joined, none) => reachAll defs path joined names
    | failed => failed
termination_by names => (defs.away path, names.length + 1)

end

end JoinDefs

/-- The join of a query that a definition describes. -/
def JoinDef.toJoin (j : JoinDef) : Sql.Join := ⟨j.from, j.on, j.left⟩

namespace Sql.Query

/-- The names joined so far, in order. -/
def joined (q : Query) : List String := q.joins.map (·.table.name)

/-- A query that joins the given names. -/
def withJoined (q : Query) (defs : JoinDefs) (names : List String) : Query :=
  { q with joins := names.filterMap fun name => (defs.named? name).map JoinDef.toJoin }

/-- The query after a join has been asked for, and what went wrong. -/
def join (q : Query) (defs : JoinDefs) (name : String) : Query × Option ConfigError :=
  let (names, error) := defs.reach [] q.joined name
  (q.withJoined defs names, error)

/-- The query after several joins, up to the first that fails. -/
def joinAll (q : Query) (defs : JoinDefs) (names : List String) : Query × Option ConfigError :=
  let (names, error) := defs.reachAll [] q.joined names
  (q.withJoined defs names, error)

end Sql.Query

end TableQuery
