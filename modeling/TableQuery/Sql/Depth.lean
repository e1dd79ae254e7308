import TableQuery.Sql.Query

/-!
# The size of queries

How deeply the operations of a clause are nested when it is written as SQL, where a list of conjunctions or
disjunctions is nested to the left. The store refuses clauses that are nested too deeply (`Clause.isShallow`): a
query inside a clause counts on top of all that stands around it. It also refuses a query to which too many values
are bound (`Query.bindsFew`).
-/

set_option autoImplicit false

namespace TableQuery.Sql

/-- The depth of an operation on things of the given depths. -/
def depthOver (depths : List Nat) : Nat := 1 + depths.foldl max 0

/-- The depth of an operation between the items of a list, nested to the left. -/
def depthOfChain : List Nat → Nat
  | [] => 0
  | d :: ds => ds.foldl (fun acc d => depthOver [acc, d]) d

/-- The depth of a column of a table, which is one name in another. -/
def columnDepth : Nat := 2

def Condition.depth : Condition → Nat
  | sameAs _ _ | equals _ _ | among _ _ false => depthOver [columnDepth]
  | among _ _ true => depthOver [depthOver [columnDepth]]

/-- The depth of what stands in a query for members, of which something with the given depth is selected. -/
def Members.innerDepth (m : Members) (selected : Nat) : Nat :=
  max selected (depthOfChain ((Condition.sameAs m.child m.parent :: m.criteria).map (·.depth)))

def Members.depth (m : Members) (selected : Nat) : Nat := depthOver [m.innerDepth selected]

/-- The depth of a number of different columns. -/
def countDepth : Nat := depthOver [columnDepth]

def Scalar.depth : Scalar → Nat
  | column _ => columnDepth
  | nullTest _ _ => depthOver [columnDepth]
  | rowCount => 1
  | joined m => m.depth (depthOver [columnDepth])

def Term.depth : Term → Nat
  | plain s => s.depth
  | lower s | asText s | orEmpty s => depthOver [s.depth]

namespace Clause

def depthOf (d : Nat) (negated : Bool) : Nat := if negated then depthOver [d] else d

mutual

def depth : Clause → Nat
  | const _ | decided _ => depthOver [1]
  | nullTest s _ => depthOver [s.depth]
  | compare _ t _ => depthOver [t.depth]
  | among t _ n | regexp t _ n => depthOf (depthOver [t.depth]) n
  | like t _ _ n => depthOf (depthOver [depthOver [t.depth]]) n
  | anyMember m => m.depth columnDepth
  | memberCount m _ _ => depthOver [m.depth countDepth]
  | not c => depthOver [depth c]
  | and cs => depthOfChain (depths true cs)
  | or cs => depthOfChain (depths false cs)

/-- The depths of the items of a conjunction, or of a disjunction, as it is written: without brackets around an
item of the same kind. -/
def depths (all : Bool) : List Clause → List Nat
  | [] => []
  | c :: cs =>
    (match c, all with
      | and inner, true | or inner, false => depths all inner
      | c, _ => [depth c]) ++ depths all cs

end

mutual

/-- The depth of what stands in the deepest query inside a clause. -/
def queryDepth : Clause → Nat
  | anyMember m => m.innerDepth columnDepth
  | memberCount m _ _ => m.innerDepth countDepth
  | not c => queryDepth c
  | and cs | or cs => queryDepths cs
  | _ => 0

/-- The depth of what stands in the deepest query inside clauses. -/
def queryDepths : List Clause → Nat
  | [] => 0
  | c :: cs => max (queryDepth c) (queryDepths cs)

end

/-- The greatest depth that the store takes. -/
def depthLimit : Nat := 1000

/-- Whether a clause is not nested too deeply for the store. -/
def isShallow (c : Clause) : Bool := c.depth + c.queryDepth ≤ depthLimit

end Clause

/-! ## Bound values -/

/-- The sum of numbers by their addition alone, whatever structure the naturals have where it is imported. -/
def sumOf (ns : List Nat) : Nat := ns.foldr (· + ·) 0

/-- The number of values that a comparison with an operand binds: nothing and truth values are constants. -/
def boundBy : Operand → Nat
  | .null | .bool _ => 0
  | _ => 1

/-- The number of values that a condition binds. -/
def Condition.bound : Condition → Nat
  | sameAs _ _ => 0
  | equals _ v => boundBy v
  | among _ vs _ => vs.length

def Members.bound (m : Members) : Nat := sumOf (m.criteria.map (·.bound))

/-- The number of values that a selected value binds: what stands between the members of a list is one of them. -/
def Scalar.bound : Scalar → Nat
  | joined m => m.bound + 1
  | column _ | nullTest _ _ | rowCount => 0

/-- The number of values that a term binds: the text in place of a missing one is one of them. -/
def Term.bound : Term → Nat
  | plain s | lower s | asText s => s.bound
  | orEmpty s => s.bound + 1

mutual

/-- The number of values that a clause binds. -/
def Clause.bound : Clause → Nat
  | .const _ | .decided _ => 0
  | .nullTest s _ => s.bound
  | .compare _ t v => t.bound + boundBy v
  | .among t vs _ => t.bound + vs.length
  | .like t _ _ _ | .regexp t _ _ => t.bound + 1
  | .anyMember m => m.bound
  | .memberCount m _ _ => m.bound + 1
  | .not c => Clause.bound c
  | .and cs | .or cs => Clause.boundInAll cs

/-- The number of values that clauses bind. -/
def Clause.boundInAll : List Clause → Nat
  | [] => 0
  | c :: cs => Clause.bound c + Clause.boundInAll cs

end

def Join.bound (j : Join) : Nat := sumOf (j.on.map (·.bound))

namespace Query

/-- The number of values that a query binds; the limit and the offset are two of them. -/
def bound (q : Query) : Nat :=
  sumOf (q.columns.map (·.1.bound)) + sumOf (q.joins.map (·.bound)) + Clause.boundInAll q.clauses +
    sumOf (q.groupBy.map (·.bound)) + sumOf (q.orderBy.map (·.1.bound)) + 2

/-- The greatest number of values that can be bound to one query, unless the store was built for more. -/
def boundLimit : Nat := 32766

/-- Whether the store takes the number of values that a query binds. -/
def bindsFew (q : Query) : Bool := q.bound ≤ boundLimit

end Query

end TableQuery.Sql
