import TableQuery.Entity.Config
import TableQuery.Filter.ColumnClause

/-!
# Filters

A `FilterNode` is a filter that fits the configuration of an entity. `FilterNode.clause` turns it, or its
opposite, into a clause on rows: the opposite of a conjunction is the disjunction of the opposites and the other
way round, so that only conditions on columns are ever negated, and those know what to do with missing values.
-/

set_option autoImplicit false

namespace TableQuery

open Sql (Clause Term)

/-- A filter. Every filter but a constant can be inverted. -/
inductive FilterNode where
  | const (value : Bool)
  /-- All filters, or some of them if `all` is not set. -/
  | op (all : Bool) (filters : List FilterNode) (inverse : Bool)
  | column (column : ColumnDef) (operator : Operator) (argument : Argument) (inverse : Bool)
  | custom (definition : CustomFilterDef) (params : CustomParams) (inverse : Bool)
  /-- Every word is in the text of some searchable column. -/
  | global (words : List String) (searchable : List ColumnDef) (inverse : Bool)
  deriving Repr

namespace FilterNode

mutual

/-- The columns that a filter refers to, in order, possibly repeated. -/
def columns : FilterNode → List ColumnDef
  | const _ => []
  | op _ fs _ => columnsOfAll fs
  | column c _ _ _ => [c]
  | custom _ _ _ => []
  | global _ cs _ => cs

def columnsOfAll : List FilterNode → List ColumnDef
  | [] => []
  | f :: fs => columns f ++ columnsOfAll fs

end

mutual

/-- The joins that a filter needs besides those of its columns. -/
def joins : FilterNode → List String
  | op _ fs _ => joinsOfAll fs
  | custom f _ _ => f.joins
  | _ => []

def joinsOfAll : List FilterNode → List String
  | [] => []
  | f :: fs => joins f ++ joinsOfAll fs

end

/-- The text of a column contains a word; a missing text is empty. -/
def wordClause (word : String) (c : ColumnDef) : Clause :=
  .like (.orEmpty c.scalar) (.text ("%" ++ Sql.escapeLike word ++ "%")) true false

/-- Every word is in some column. -/
def searchClause (words : List String) (columns : List ColumnDef) : Clause :=
  if words.isEmpty then .const true
  else if columns.isEmpty then .const false
  else .conj (words.map fun w => .disj (columns.map (wordClause w)))

/-- Some word is in no column. -/
def inverseSearchClause (words : List String) (columns : List ColumnDef) : Clause :=
  if words.isEmpty then .const false
  else if columns.isEmpty then .const true
  else .disj (words.map fun w => .conj (columns.map fun c => (wordClause w c).negate))

mutual

/-- The clause that a filter puts on rows, or its opposite if `invert` is set. -/
def clause (invert : Bool) : FilterNode → Clause
  | const value => .const (value != invert)
  | op all fs inverse =>
    let invert := invert != inverse
    if all != invert then .conj (clauses invert fs) else .disj (clauses invert fs)
  | column c o a inverse =>
    if invert != inverse then o.inverseClause c.type c.source a else o.clause c.type c.source a
  | custom f p inverse => if invert != inverse then (f.compile p).negate else f.compile p
  | global words cs inverse => if invert != inverse then inverseSearchClause words cs else searchClause words cs

/-- The clauses that filters put on rows. -/
def clauses (invert : Bool) : List FilterNode → List Clause
  | [] => []
  | f :: fs => clause invert f :: clauses invert fs

end

/-- A filter that lets every row pass without saying anything about it. -/
def isAlways : FilterNode → Bool
  | const value => value
  | _ => false

end FilterNode

end TableQuery
