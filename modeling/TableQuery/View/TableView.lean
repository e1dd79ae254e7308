import TableQuery.View.Schema
import TableQuery.Entity.Config

/-!
# The view of a table

A `TableView` is what a table on a screen knows: which columns are shown, what is searched for, the filters of
the columns, the order, the page, and how far it is with fetching data. `TableView.step` changes it by one
action and `TableView.request` is the request for data that it stands for.

A step gives the new state, a reply, and the states in which observers are told of a change; there is at most
one of those, and it is the last thing that a step does. A step that fails keeps what it had changed before.

The text that is searched for becomes part of the request only when it has not changed for a while
(`Action.poll`) or when that is asked for (`Action.flush`). Requests are numbered, so that an answer to any but
the latest is ignored.
-/

set_option autoImplicit false

namespace TableQuery

open Number (Numeric Double)

/-- Why an action or a request is not possible. -/
inductive ViewError where
  | fault (f : Fault)
  | filter (e : ReductionError)
  | notInitialised
  deriving Repr

/-- The state of a view. -/
structure TableView where
  /-- A filter that is part of every request. -/
  intrinsicFilter : Option Json := none
  /-- How long the text searched for must not have changed. -/
  quiet : Json := .double (Double.ofRatio false 1 2)
  /-- The time in seconds. -/
  now : Double := .finite false 0
  observers : List Nat := []
  nextObserver : Nat := 0
  /-- The schema, `null` before there is one. -/
  schema : Json := .null
  columnSchemas : ColumnSchemas := {}
  initialised : Bool := false
  /-- Which columns are shown, by name. -/
  visibility : NameMap := []
  /-- The text searched for as it was typed. -/
  typed : Json := .str ""
  /-- The text searched for as it is in requests. -/
  searched : Json := .str ""
  /-- When the text was typed, unless it has been seen to since. -/
  typedAt : Option Double := none
  /-- The filters of columns, by name. -/
  columnFilters : NameMap := []
  sorting : List SortState := []
  pageIndex : Json := .int 0
  pageSize : Json
  lastTicket : Nat := 0
  inFlight : Option Nat := none
  /-- The latest answer, `null` if there is none. -/
  response : Json := .null
  lastError : Option String := none
  deriving Repr

/-- Something that happens to a view. -/
inductive Action where
  | advance (seconds : Json)
  | setSchema (schema : Json)
  | setVisibility (visibility : Json)
  | search (text : Json)
  | poll
  | flush
  | setColumnFilter (column filter : Json)
  | setSorting (entries : Json)
  /-- What is `null` stays as it is. -/
  | setPage (index size : Json)
  | beginFetch
  | acceptResponse (ticket : Nat) (response : Json)
  | failFetch (ticket : Nat) (message : String)
  | subscribe
  | unsubscribe (observer : Nat)
  deriving Repr

/-- What a step answers. -/
inductive Reply where
  | nothing
  | flag (value : Bool)
  /-- The number of a request and the request. -/
  | ticket (id : Nat) (request : Json)
  | observer (id : Nat)
  | failed (e : ViewError)
  deriving Repr

/-- The result of a step. -/
structure Outcome where
  state : TableView
  reply : Reply := .nothing
  /-- The states that observers were shown. -/
  shown : List TableView := []

namespace TableView

/-- A step that ends by telling the observers. -/
def announce (v : TableView) (reply : Reply := .nothing) : Outcome := ⟨v, reply, [v]⟩

def failing (v : TableView) (f : Fault) : Outcome := ⟨v, .failed (.fault f), []⟩

def columnNames (v : TableView) : Except Fault (List Json) :=
  match v.schema with
  | .obj schema => ViewSchema.columnNames schema
  | _ => .error .wrongKind

def atFirstPage (v : TableView) : TableView := { v with pageIndex := .int 0 }

def showsSome (visibility : NameMap) : Bool := visibility.any (·.2.truthy)

/-- The view with at least one column shown: if none is, with those that were shown before, or else with all. -/
def ensureVisible (v : TableView) (previous : NameMap) : Except Fault TableView :=
  if showsSome v.visibility then .ok v
  else if showsSome previous then .ok { v with visibility := previous }
  else do
    let names ← v.columnNames
    return { v with visibility := NameMap.constant names (.bool true) }

def activeFilters (v : TableView) : List Json := (v.columnFilters.map (·.2)).filter (·.truthy)

/-- The first entry of the order, and whether it is the same as another one. -/
def sameMainSort (a b : List SortState) : Bool :=
  match a.head?, b.head? with
  | none, none => true
  | some x, some y => x.same y
  | _, _ => false

/-- An entry of an order: a value whose two elements are a column and a direction. -/
def readSortEntry (j : Json) : Except Fault SortState :=
  match j.elements? with
  | some [column, desc] => .ok ⟨column, desc⟩
  | some _ => .error .badValue
  | none => .error .wrongKind

/-! ## The request -/

/-- The filters whose conjunction is the filter of the request. -/
def filters (v : TableView) : List Json :=
  v.intrinsicFilter.toList ++
    (if v.searched.truthy then [.obj [("type", .str "global"), ("op", .str "%v%"), ("val", v.searched)]] else []) ++
    v.activeFilters

/-- Whether a column is shown; what is not known to be hidden is. -/
def isShown (v : TableView) (name : Json) : Bool :=
  ((v.visibility.get? name).map (·.truthy)).getD true

/-- The number of the page, counted from one. -/
def pageNumber (v : TableView) : Except Fault Json := do
  return .num ((← Fault.wrongKind.orElse v.pageIndex.number?).add (.int 1))

/-- The request for the data of the view, none before it has a schema. -/
def request (v : TableView) : Except ViewError (Option Json) :=
  if v.schema.same .null || !v.initialised then .ok none
  else do
    let names ← v.columnNames.mapError .fault
    let filter ← (reduceFilter v.columnSchemas
      (.obj [("type", .str "op"), ("op", .str "&"), ("val", .arr v.filters)])).mapError .filter
    let number ← v.pageNumber.mapError .fault
    return some (.obj
      [("columns", .arr ((names.filter v.isShown).map columnEntry)),
        ("filter", filter),
        ("sort", .arr (v.sorting.map fun s =>
          .obj [("type", .str "column"), ("column", s.column), ("dir", .str (directionName s.desc.truthy))])),
        ("paging", .obj [("size", v.pageSize), ("number", number)])])

/-! ## Actions -/

/-- The view set up for a schema: what is taken from it replaces what there was, as far as it can be read. -/
def setSchema (v : TableView) (schema : Json) : Outcome :=
  let v := { v with schema }
  let fields? : Except Fault Fields := Fault.missingPart.orElse schema.fields?
  match fields?, fields?.bind ColumnSchemas.ofFields with
  | .error f, _ | _, .error f => v.failing f
  | .ok schema, .ok columnSchemas =>
    let v := { v with columnSchemas }
    match v.columnNames with
    | .error f => v.failing f
    | .ok names =>
      match ViewSchema.visibility schema names with
      | .error f => v.failing f
      | .ok visibility =>
        let v := { v with visibility }
        match v.ensureVisible [] with
        | .error f => v.failing f
        | .ok v =>
          let v := { v with columnFilters := NameMap.constant names .null }
          match ViewSchema.sorting schema with
          | .error f => v.failing f
          | .ok sorting => { v with sorting, initialised := true }.atFirstPage.announce

/-- The view with some columns shown or hidden. -/
def setVisibility (v : TableView) (visibility : Json) : Outcome :=
  match visibility with
  | .obj fields =>
    let next := { v with visibility := fields.foldl (fun m (name, shown) => m.set (.str name) shown) v.visibility }
    match next.ensureVisible v.visibility with
    | .error f => next.failing f
    | .ok next => next.announce
  | _ => v.failing .wrongKind

/-- The view with another text typed. -/
def search (v : TableView) (text : Json) : Outcome :=
  { v with typed := text, typedAt := some v.now }.announce

/-- Takes the typed text into the request; tells whether that changes it. -/
def flush (v : TableView) : Outcome :=
  if v.typedAt.isNone then ⟨v, .flag false, []⟩
  else
    let v := { v with typedAt := none }
    if v.typed.same v.searched then ⟨v, .flag false, []⟩
    else { v with searched := v.typed }.atFirstPage.announce (.flag true)

/-- Takes the typed text into the request if it has not changed for a while. -/
def poll (v : TableView) : Outcome :=
  match v.typedAt with
  | none => ⟨v, .flag false, []⟩
  | some t =>
    match v.quiet.number? with
    | none => v.failing .wrongKind
    | some quiet => if (Numeric.double (v.now.sub t)).less quiet then ⟨v, .flag false, []⟩ else v.flush

/-- The view at a later time. An integer that no double is near to cannot be added. -/
def advance (v : TableView) (seconds : Json) : Outcome :=
  match seconds with
  | .num (.int n) =>
    let x := Double.ofInt n
    if x.isFinite then ⟨{ v with now := v.now.add x }, .nothing, []⟩ else v.failing .outOfRange
  | seconds => match seconds.number? with
    | some x => ⟨{ v with now := v.now.add x.toDouble }, .nothing, []⟩
    | none => v.failing .wrongKind

def setColumnFilter (v : TableView) (column filter : Json) : Outcome :=
  let next := { v with columnFilters := v.columnFilters.set column filter }
  if column.isContainer then v.failing .wrongKind
  else (if Json.sameItems next.activeFilters v.activeFilters then next else next.atFirstPage).announce

def setSorting (v : TableView) (entries : Json) : Outcome :=
  match (Fault.wrongKind.orElse entries.elements?).bind (·.mapM readSortEntry) with
  | .error f => v.failing f
  | .ok sorting =>
    let next := { v with sorting }
    (if sameMainSort sorting v.sorting then next else next.atFirstPage).announce

/-- The view at another page, or with pages of another size. -/
def setPage (v : TableView) (index size : Json) : Outcome :=
  { v with
    pageIndex := if index.same .null then v.pageIndex else index
    pageSize := if size.same .null then v.pageSize else size }.announce

/-- Numbers the request of the view. -/
def beginFetch (v : TableView) : Outcome :=
  match v.request with
  | .error e => ⟨v, .failed e, []⟩
  | .ok none => ⟨v, .failed .notInitialised, []⟩
  | .ok (some request) =>
    let id := v.lastTicket + 1
    ⟨{ v with lastTicket := id, inFlight := some id }, .ticket id request, []⟩

/-- Keeps the answer to a request, unless there was a later one. -/
def acceptResponse (v : TableView) (ticket : Nat) (response : Json) : Outcome :=
  if ticket ≠ v.lastTicket then ⟨v, .flag false, []⟩
  else { v with inFlight := none, response, lastError := none }.announce (.flag true)

/-- Keeps the failure of a request, unless there was a later one. -/
def failFetch (v : TableView) (ticket : Nat) (message : String) : Outcome :=
  if ticket ≠ v.lastTicket then ⟨v, .flag false, []⟩
  else { v with inFlight := none, lastError := some message }.announce (.flag true)

def step (v : TableView) : Action → Outcome
  | .advance seconds => v.advance seconds
  | .setSchema schema => v.setSchema schema
  | .setVisibility visibility => v.setVisibility visibility
  | .search text => v.search text
  | .poll => v.poll
  | .flush => v.flush
  | .setColumnFilter column filter => v.setColumnFilter column filter
  | .setSorting entries => v.setSorting entries
  | .setPage index size => v.setPage index size
  | .beginFetch => v.beginFetch
  | .acceptResponse ticket response => v.acceptResponse ticket response
  | .failFetch ticket message => v.failFetch ticket message
  | .subscribe =>
    ⟨{ v with observers := v.observers ++ [v.nextObserver], nextObserver := v.nextObserver + 1 },
      .observer v.nextObserver, []⟩
  | .unsubscribe observer => ⟨{ v with observers := v.observers.erase observer }, .nothing, []⟩

/-! ## What is known of the data -/

def isFetching (v : TableView) : Bool := v.inFlight.isSome

/-- The number of rows that the latest answer tells, `null` if there is none. -/
def rowsCount (v : TableView) : Except Fault Json :=
  match v.response with
  | .null => .ok .null
  | response => do (← response.part "meta").part "totalDataSize"

/-- The number of pages: that of the rows, of which there is at least one, divided by the size of a page and
rounded up. The quotient is rounded to a double first. -/
def pageCount (v : TableView) : Except Fault Int := do
  let rows ← v.rowsCount
  let rows : Numeric ← if rows.truthy then Fault.wrongKind.orElse rows.number? else .ok (.int 0)
  let size ← Fault.wrongKind.orElse v.pageSize.number?
  let quotient ← Fault.divisionByZero.orElse ((if rows.less (.int 1) then .int 1 else rows).div? size)
  if quotient = .nan then .error .badValue else Fault.outOfRange.orElse quotient.ceil?

end TableView

end TableQuery
