import TableQuery.Sql.Depth
import TableQuery.Sql.Reach

/-!
# Running queries

`Query.matching` gives the joined rows that satisfy the clauses of a query. They form groups: by the values that
the query groups by, all in one if it only counts, or each on its own. The groups are sorted and cut to a page
(`Query.rows`); `Query.total` counts them without paging, except that a query that groups by nothing counts
rows.

A query cannot run at all if one of its numbers does not fit the store, if it binds too many values, if its clauses
are nested too deeply, or if a row reaches a pattern that cannot be used (`Query.canRun`).
-/

set_option autoImplicit false

namespace TableQuery.Sql

/-- Rows that give one row of the result: how many they are, and the first of them. -/
structure Group where
  size : Nat
  first : Env
  deriving Inhabited

namespace Query

/-- The rows after one more join. -/
def joinRows (store : Store) (envs : List Env) (j : Join) : List Env :=
  envs.flatMap fun env =>
    let partners := (store.rows j.table.table).filterMap fun row =>
      let joined := env ++ [(j.table.name, row)]
      if Condition.allHold joined j.on then some joined else none
    if partners.isEmpty && j.left then [env] else partners

/-- Every row beside every row of one more table. -/
def crossRows (store : Store) (envs : List Env) (t : Table) : List Env :=
  envs.flatMap fun env => (store.rows t.table).map fun row => env ++ [(t.name, row)]

def joinedRows (store : Store) (q : Query) : List Env :=
  q.crossed.foldl (crossRows store)
    (q.joins.foldl (joinRows store) ((store.rows q.base.table).map fun row => [(q.base.name, row)]))

/-- Whether a row satisfies the clauses. -/
def keeps (store : Store) (q : Query) (env : Env) : Bool :=
  match q.filter? with
  | none => true
  | some c => c.holds store env

/-- The joined rows that satisfy the clauses. -/
def matching (store : Store) (q : Query) : List Env :=
  (q.joinedRows store).filter (q.keeps store)

def groupKey (store : Store) (q : Query) (env : Env) : List Value :=
  q.groupBy.map fun s => s.value store env 1

/-- Whether lists of values are equal, missing values being equal to each other. -/
def sameKey (a b : List Value) : Bool :=
  a.length == b.length && (a.zip b).all fun (x, y) => x.compare y == .eq

/-- The order of lists of values, the first difference deciding; values marked descending compare the other way. -/
def compareKeys : List Bool → List Value → List Value → Ordering
  | desc :: ds, a :: as, b :: bs =>
    match a.compare b with
    | .eq => compareKeys ds as bs
    | o => if desc then o.swap else o
  | _, _, _ => .eq

def addToGroups (key : List Value) (env : Env) : List (List Value × Group) → List (List Value × Group)
  | [] => [(key, ⟨1, env⟩)]
  | (k, g) :: rest =>
    if sameKey k key then (k, { g with size := g.size + 1 }) :: rest else (k, g) :: addToGroups key env rest

def isCount : Scalar × String → Bool
  | (.rowCount, _) => true
  | _ => false

/-- The groups of the rows that satisfy the clauses. -/
def groups (store : Store) (q : Query) : List Group :=
  let envs := q.matching store
  if !q.groupBy.isEmpty then
    let keyed := envs.foldl (fun gs env => addToGroups (q.groupKey store env) env gs) []
    let ascending := q.groupBy.map fun _ => false
    (keyed.mergeSort fun a b => compareKeys ascending a.1 b.1 != .gt).map (·.2)
  else if q.columns.any isCount then [⟨envs.length, envs.headD []⟩]
  else envs.map fun env => ⟨1, env⟩

def sortKey (store : Store) (q : Query) (g : Group) : List Value :=
  q.orderBy.map fun (s, _) => s.value store g.first g.size

def sorted (store : Store) (q : Query) : List Group :=
  let directions := q.orderBy.map (·.2)
  let keyed := (q.groups store).map fun g => (q.sortKey store g, g)
  (keyed.mergeSort fun a b => compareKeys directions a.1 b.1 != .gt).map (·.2)

/-- The part of a list that a limit and an offset leave; a negative limit is none. -/
def page {α : Type} (q : Query) (xs : List α) : List α :=
  let rest := xs.drop (q.offset.getD 0).toNat
  match q.limit with
  | some n => if n < 0 then rest else rest.take n.toNat
  | none => rest

/-- The selected values of a group. -/
def shape (store : Store) (q : Query) (g : Group) : List Value :=
  q.columns.map fun (s, _) => s.value store g.first g.size

def rows (store : Store) (q : Query) : List (List Value) :=
  (q.page (q.sorted store)).map (q.shape store)

/-- The total: the number of groups, or of rows if there is nothing to group by. -/
def total (store : Store) (q : Query) : Nat :=
  match q.counting with
  | .rows plain => (plain.matching store).length
  | .groups plain => (plain.groups store).length

/-- Whether the query, its numbers and its texts fit the store and no pattern that cannot be used is reached. -/
def canRun (indexes : Indexes) (store : Store) (q : Query) : Bool :=
  (q.limit.map Value.fitsStore).getD true && (q.offset.map Value.fitsStore).getD true && q.bindsFew &&
    Clause.fitStore q.conjuncts && q.filter?.all (·.isShallow) && !q.reachesBad indexes store

end Query

end TableQuery.Sql
