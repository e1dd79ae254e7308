import TableQuery.Sql.Meaning

/-!
# Which patterns are reached

A query goes through its tables one after the other and tests every clause as soon as all that the clause reads
is there. A pattern that cannot be used does harm only in rows that reach it, so the order of tables and of
tests matters for it, and for nothing else. `Query.steps` is that order: the table with the fewest expected rows
comes next, where a column with an index that has to equal something known leaves few; what an index answers is
tested first, subqueries last. Clauses whose columns all have to equal constants are tested before any row is
read. `Query.reachesBad` tells whether a pattern that cannot be used is reached.
-/

set_option autoImplicit false

namespace TableQuery.Sql

/-- Whether a stored column has an index, and what the index demands. -/
inductive Access where
  | plain
  | indexed
  /-- No two rows have the same value. -/
  | unique
  deriving DecidableEq, Repr

/-- The indexes of stored columns, by table and column. -/
abbrev Indexes := String → String → Access

/-! ## What a clause reads -/

/-- The columns that a value is read from. -/
def Scalar.refs : Scalar → List Ref
  | .column r | .nullTest r _ => [r]
  | .rowCount => []
  | .joined m => [m.parent]

/-- The columns that a term is read from. -/
def Term.refs : Term → List Ref
  | .plain s | .lower s | .asText s | .orEmpty s => s.refs

namespace Clause

mutual

/-- The columns of the joined tables that a clause reads. -/
def refs : Clause → List Ref
  | nullTest s _ => s.refs
  | compare _ t _ | among t _ _ | like t _ _ _ | regexp t _ _ => t.refs
  | anyMember m | memberCount m _ _ => [m.parent]
  | not c => refs c
  | and cs | or cs => refsOfAll cs
  | const _ | decided _ => []

def refsOfAll : List Clause → List Ref
  | [] => []
  | c :: cs => refs c ++ refsOfAll cs

end

mutual

/-- Whether a clause looks into another table for members. -/
def asksMembers : Clause → Bool
  | anyMember _ | memberCount _ _ _ => true
  | not c => asksMembers c
  | and cs | or cs => someAskMembers cs
  | _ => false

def someAskMembers : List Clause → Bool
  | [] => false
  | c :: cs => asksMembers c || someAskMembers cs

end

mutual

def conjuncts : Clause → List Clause
  | and cs => conjunctsOfAll cs
  | c => [c]

def conjunctsOfAll : List Clause → List Clause
  | [] => []
  | c :: cs => conjuncts c ++ conjunctsOfAll cs

end

end Clause

/-! ## Tests -/

/-- Something that is tested on the way: a clause, or a condition of a join. -/
inductive Test where
  | clause (c : Clause)
  | condition (c : Condition)
  deriving Repr

namespace Test

/-- The columns that a test reads. -/
def refs : Test → List Ref
  | clause c => c.refs
  | condition (.sameAs l r) => [l, r]
  | condition (.equals r _) | condition (.among r _ _) => [r]

def holds (store : Store) (env : Env) : Test → Bool
  | clause c => c.holds store env
  | condition c => c.truth env == some true

/-- Whether a pattern that cannot be used is reached in a test. -/
def trips (store : Store) (env : Env) : Test → Bool
  | clause c => c.trips store env
  | condition _ => false

/-- Whether a test looks into another table. -/
def asksMembers : Test → Bool
  | clause c => c.asksMembers
  | condition _ => false

/-- How many rows are expected to pass an index on the column of a table that a test is about, once the tables
of the given names are there: the column and that number. -/
def seek? (indexes : Indexes) (known : List String) (t : Table) (test : Test) : Option (String × Nat) :=
  let here (r : Ref) (unique indexed : Nat) : Option (String × Nat) :=
    if r.source != t.name then none
    else match indexes t.table r.column with
      | .unique => some (r.column, unique)
      | .indexed => some (r.column, indexed)
      | .plain => none
  match test with
  | clause (.compare .eq (.plain (.column r)) _) | condition (.equals r _) => here r 1 10
  | clause (.nullTest (.column r) false) => here r 10 10
  | clause (.among (.plain (.column r)) vs false) | condition (.among r vs false) => here r vs.length (10 * vs.length)
  | clause (.compare .ne _ _) => none
  | clause (.compare _ (.plain (.column r)) _) => here r 262144 262144
  | condition (.sameAs l r) =>
    if known.contains r.source then here l 1 10 else if known.contains l.source then here r 1 10 else none
  | _ => none

end Test

/-! ## Steps -/

/-- A table that a query goes through, with what is tested in its rows. -/
structure Step where
  table : Table
  /-- The conditions under which a row of a left join is a partner. -/
  partners : List Condition := []
  /-- Without partners the rows so far stay. -/
  left : Bool := false
  tests : List Test
  deriving Repr

/-- A table that may come next: the column whose index is used, and how many rows are expected then. -/
structure Candidate where
  table : Table
  column : Option String
  rows : Nat
  /-- The tests that can be done then. -/
  tests : List Test
  deriving Repr

/-- Whether a test needs no tables but those of the given names. -/
def Test.isReady (test : Test) (known : List String) : Bool :=
  test.refs.all fun r => known.contains r.source

namespace Candidate

/-- The number of rows that are expected in a table of which no index is used. -/
def allRows : Nat := 1048576

/-- The way to read a table when those of the given names are there and the given tests are still to do. -/
def of (indexes : Indexes) (known : List String) (pending : List Test) (t : Table) : Candidate :=
  let tests := pending.filter (·.isReady (t.name :: known))
  let start : Candidate := ⟨t, none, allRows, tests⟩
  (tests.filterMap (·.seek? indexes known t)).foldl (fun best (column, rows) =>
    if rows < best.rows then { best with column := some column, rows } else best) start

/-- Whether a candidate leaves fewer rows than another one, or as many with more tests. -/
def isBetter (a b : Candidate) : Bool :=
  a.rows < b.rows || (a.rows == b.rows && b.tests.length < a.tests.length)

/-- The step that a candidate makes: what the index answers comes first, then what reads no other column of the
table, then all other tests, those that look into other tables last. -/
def step (indexes : Indexes) (known : List String) (c : Candidate) : Step :=
  let isSought (test : Test) : Bool := (test.seek? indexes known c.table).any fun s => some s.1 == c.column
  let isCovered (test : Test) : Bool := test.refs.all fun r => r.source != c.table.name || some r.column == c.column
  let (sought, rest) := c.tests.partition isSought
  let (late, rest) := rest.partition (·.asksMembers)
  let (covered, rest) := rest.partition isCovered
  { table := c.table, tests := sought ++ covered ++ rest ++ late }

end Candidate

/-- The steps through `count` tables, as many as there are. -/
def stepsThrough (indexes : Indexes) : Nat → List String → List Table → List Test → List Step
  | 0, _, _, _ => []
  | count + 1, known, tables, pending =>
    match tables.map (Candidate.of indexes known pending) with
    | [] => []
    | first :: others =>
      let best := others.foldl (fun best c => if c.isBetter best then c else best) first
      let known' := best.table.name :: known
      best.step indexes known ::
        stepsThrough indexes count known' (tables.filter (· != best.table)) (pending.filter (!·.isReady known'))

/-- The steps through left joins, which come after all others in their own order. -/
def leftSteps : List String → List Join → List Test → List Step
  | _, [], _ => []
  | known, j :: js, pending =>
    let known := j.table.name :: known
    { table := j.table, partners := j.on, left := true, tests := pending.filter (·.isReady known) } ::
      leftSteps known js (pending.filter (!·.isReady known))

/-- Whether a pattern that cannot be used is reached in tests, which stop at the first one that fails. -/
def testsTrip (store : Store) (env : Env) : List Test → Bool
  | [] => false
  | t :: ts => t.trips store env || (t.holds store env && testsTrip store env ts)

/-- Whether a pattern that cannot be used is reached in the rows that go with `env`. -/
def stepsTrip (store : Store) : List Step → Env → Bool
  | [], _ => false
  | s :: steps, env =>
    let joined := ((store.rows s.table.table).map fun row => env ++ [(s.table.name, row)]).filter
      (Condition.allHold · s.partners)
    (if s.left && joined.isEmpty then [env] else joined).any fun env =>
      testsTrip store env s.tests || (s.tests.all (·.holds store env) && stepsTrip store steps env)

/-! ## Queries -/

/-- Columns that have to equal constants, each with the first of them. -/
abbrev FixedColumns := List (Ref × Operand)

namespace FixedColumns

def ofClauses (cs : List Clause) : FixedColumns :=
  cs.foldl (fun fixed c =>
    match c with
    | .compare .eq (.plain (.column r)) v => if fixed.any (·.1 == r) then fixed else fixed ++ [(r, v)]
    | _ => fixed) []

/-- Rows that have nothing but the values of the fixed columns. -/
def env (fixed : FixedColumns) : Env :=
  fixed.map fun (r, _) =>
    (r.source, (fixed.filter (·.1.source == r.source)).map fun (r, v) => (r.column, .ofOperand v))

/-- Whether a clause is the one that fixes a column. -/
def isSource (fixed : FixedColumns) : Clause → Bool
  | .compare .eq (.plain (.column r)) v => fixed.contains (r, v)
  | _ => false

/-- Whether a clause can be tested before any row is read. -/
def decides (fixed : FixedColumns) (c : Clause) : Bool :=
  !c.asksMembers && !fixed.isSource c && c.refs.all fun r => fixed.any (·.1 == r)

end FixedColumns

namespace Query

/-- The clauses whose conjunction rows have to satisfy. -/
def conjuncts (q : Query) : List Clause :=
  (q.filter?.map Clause.conjuncts).getD []

/-- The steps of a query in which the given clauses are tested. -/
def steps (indexes : Indexes) (q : Query) (clauses : List Clause) : List Step :=
  let (left, inner) := q.joins.partition (·.left)
  let tables := q.base :: inner.map (·.table) ++ q.crossed
  let tests := clauses.map Test.clause ++ (inner.flatMap (·.on)).map Test.condition
  let known := tables.map (·.name)
  stepsThrough indexes tables.length [] tables tests ++ leftSteps known left (tests.filter (!·.isReady known))

/-- Whether a pattern that cannot be used is reached. -/
def reachesBad (indexes : Indexes) (store : Store) (q : Query) : Bool :=
  let fixed := FixedColumns.ofClauses q.conjuncts
  let (early, later) := q.conjuncts.partition fixed.decides
  let early := early.map Test.clause
  testsTrip store fixed.env early ||
    (early.all (·.holds store fixed.env) && stepsTrip store (q.steps indexes later) [])

end Query

end TableQuery.Sql
