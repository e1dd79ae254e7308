import TableQuery.Filter.Reader

/-!
# Requests

A `Request` is a request for data that fits the configuration of an entity. `Request.check` makes one from a
request of the right shape, or collects all that is wrong with it: with the selected columns, the sort, the
paging and the filter, in this order. `Request.ofJson` makes one from JSON.
-/

set_option autoImplicit false

namespace TableQuery

/-- A request that can be run. -/
structure Request where
  select : List ColumnDef
  filter : FilterNode
  sort : List (ColumnDef × Bool) := []
  size : Int
  offset : Int := 0
  distinct : Bool := false
  deriving Repr

namespace Request

/-- Columns without those whose name came before. -/
def firstUses : List String → List ColumnDef → List ColumnDef
  | _, [] => []
  | seen, c :: cs =>
    if seen.contains c.name then firstUses seen cs else c :: firstUses (c.name :: seen) cs

/-- All columns that a request refers to, in the order of their first use. -/
def columns (r : Request) : List ColumnDef :=
  firstUses [] (r.select ++ r.filter.columns ++ r.sort.map (·.1))

/-- What is wrong with selecting a column after others. -/
def columnComplaint? (distinct : Bool) (before : List ColumnDef) (c : ColumnDef) : Option Complaint :=
  if before.any (·.name == c.name) then some (.selectedTwice c.name)
  else if !c.isData && !distinct then some .countNotDistinct
  else if distinct && c.type.isList then some .listInDistinct
  else none

/-- The columns selected so far and what was wrong with others. -/
structure Selection where
  columns : List ColumnDef := []
  errors : List FieldError := []

/-- A selection with one more column, given by its name and its place in the request. -/
def Selection.add (config : EntityConfig) (distinct : Bool) (s : Selection) (entry : String × Nat) : Selection :=
  let complain := fun c => { s with errors := s.errors ++ [⟨["columns", toString entry.2, "column"], c⟩] }
  match config.column? entry.1 with
  | none => complain (.unknownColumn (.str entry.1))
  | some c =>
    match columnComplaint? distinct s.columns c with
    | some complaint => complain complaint
    | none => { s with columns := s.columns ++ [c] }

def Selection.ofNames (config : EntityConfig) (distinct : Bool) (names : List String) : Selection :=
  names.zipIdx.foldl (Selection.add config distinct) {}

def sortComplaint? (distinct : Bool) (selected : List ColumnDef) (c : ColumnDef) : Option Complaint :=
  if !c.isData && !distinct then some .countNotDistinct
  else if c.isData && !c.type.kind.isSortable then some (.notSortable c.name)
  else if distinct && !selected.any (·.name == c.name) then some .notSelected
  else none

/-- The column and the direction of an entry of a sort. -/
def checkSortItem (config : EntityConfig) (distinct : Bool) (selected : List ColumnDef) (item : SortItem) :
    Checked (ColumnDef × Bool) :=
  Checked.under ["column"] <|
    match config.column? item.column with
    | none => .fail (.unknownColumn (.str item.column))
    | some c =>
      match sortComplaint? distinct selected c with
      | some complaint => .fail complaint
      | none => .ok (c, item.desc)

def checkSort (config : EntityConfig) (distinct : Bool) (selected : List ColumnDef) (sort : List SortItem) :
    Checked (List (ColumnDef × Bool)) :=
  (Checked.numbered (sort.map (checkSortItem config distinct selected))).under ["sort"]

/-- Whether a page may have a size. The bound is looked at only for sizes that are positive; it must be a number
then. -/
def isPageSize (maxPageSize : Json) (size : Int) : Except Fault Bool :=
  if size < 1 then .ok false
  else match maxPageSize.number? with
    | some bound => .ok (!bound.less (.int size))
    | none => .error .wrongKind

def pagingErrors (maxPageSize : Json) (p : Paging) : Except Fault (List FieldError) := do
  let below (bound : Int) : Option Int → Bool
    | some n => n < bound
    | none => false
  let fits ← isPageSize maxPageSize p.size
  return (if fits then [] else [⟨["paging", "size"], .pageSize maxPageSize⟩]) ++
    (if below 1 p.number then [⟨["paging", "number"], .pageNumber⟩] else []) ++
    (if below 0 p.offset then [⟨["paging", "offset"], .negativeOffset⟩] else [])

/-- The request that a request of the right shape makes of an entity. What is wrong with its filter is told after
what is wrong with its columns, its sort and its paging. -/
def check (config : EntityConfig) (maxPageSize : Json) (d : DataRequest) : Except Fault (Checked Request) := do
  let selection := Selection.ofNames config d.distinct d.columns
  let sort := checkSort config d.distinct selection.columns d.sort
  let paging ← pagingErrors maxPageSize d.paging
  let (filter, told) ← (FilterNode.readAt config "filter" d.filter).run (selection.errors ++ sort.errors ++ paging)
  let request := do
    return { select := selection.columns, sort := ← sort.toOption, filter := ← filter, size := d.paging.size,
             offset := d.paging.start, distinct := d.distinct }
  return Reporting.conclude request told

/-- The request that a value makes of an entity: its shape is found out first, and checked only if it is right. -/
def ofJson (config : EntityConfig) (maxPageSize : Json) (payload : Json) : Except Fault (Checked Request) :=
  match DataRequest.read false payload with
  | .error es => .ok (.error es)
  | .ok d => check config maxPageSize d

end Request

end TableQuery
