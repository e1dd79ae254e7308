import TableQuery.Service.Engine
import TableQuery.Settings
import TableQuery.View.Table

/-!
# The service

What can be asked of the stored data: the schema of an entity, rows for a request, a single row, and an export
of all rows for a request as a file. Entities that belong to facilities are asked for in the name of a facility,
which must exist; the others without one.
-/

set_option autoImplicit false

namespace TableQuery

open Sql (Store)

/-- The stored data and the settings under which it is served. -/
structure Service where
  store : Store := {}
  settings : Settings := {}

/-- The format of an exported file. -/
inductive ExportFormat where
  | csv
  | xlsx
  deriving DecidableEq, Repr

namespace ExportFormat

/-- The name of a format, which is also the extension of file names. -/
def name : ExportFormat → String
  | csv => "csv"
  | xlsx => "xlsx"

def mediaType : ExportFormat → String
  | csv => "text/csv"
  | xlsx => "application/vnd.openxmlformats-officedocument.spreadsheetml.sheet"

def ofName? (s : String) : Option ExportFormat :=
  [csv, xlsx].find? (·.name == s)

end ExportFormat

/-- What is in a file. -/
inductive FileContent where
  | text (s : String)
  /-- A sheet with the given cells. -/
  | sheet (cells : List (List Json))

/-- A table as a file of some format. -/
def ExportFormat.encode (table : RenderedTable) : ExportFormat → Except Fault FileContent
  | csv => .ok (.text table.toCsv)
  | xlsx => table.toCells.map .sheet

/-- An exported file. -/
structure Export where
  format : ExportFormat
  fileName : String
  content : FileContent

namespace Service

def unknownEntity (entity : String) : Failure := .notFound ("Unknown entity: " ++ entity)

def hasFacility (s : Service) (facility : String) : Bool :=
  isUuid facility && (s.store.byId? TableDef.facilities.name facility).isSome

def entity (s : Service) (name : String) (facility : Option String) : Except Failure Entity :=
  match (Entity.find? name).filter (·.isScoped == facility.isSome), facility with
  | none, _ => .error (unknownEntity name)
  | some e, none => .ok e
  | some e, some f => if s.hasFacility f then .ok e else .error (.notFound "Facility not found")

def schema (s : Service) (name : String) (facility : Option String) : Except Failure Json := do
  return (← s.entity name facility).config.schema

/-- A request of the right shape, made of an entity. -/
def checked (e : Entity) (maxPageSize : Json) (d : DataRequest) : Except Failure Request := do
  let r ← (Request.check e.config maxPageSize d).mapError .fault
  r.mapError .invalid

/-- The data that a request of the right shape asks for. -/
def answer (s : Service) (e : Entity) (facility : Option String) (maxPageSize : Json) (d : DataRequest) :
    Except Failure Response := do
  (← checked e maxPageSize d).run s.store s.settings.debug e facility

/-- The data that a request asks for. -/
def query (s : Service) (name : String) (facility : Option String) (read : Except Failure DataRequest) :
    Except Failure Response := do
  let e ← s.entity name facility
  s.answer e facility s.settings.maxPageSize (← read)

/-- A request as JSON, whose shape has to be found out. -/
def readRequest (payload : Json) : Except Failure DataRequest :=
  (DataRequest.read false payload).mapError .invalid

def rowRequest (e : Entity) (id : String) : DataRequest :=
  { columns := (e.config.columns.filter (·.isData)).map (·.name),
    filter := .obj [("type", .str "column"), ("column", .str "id"), ("op", .str "="), ("val", .str id)],
    paging := { size := 1, number := some 1 } }

def row (s : Service) (name : String) (facility : Option String) (id : String) : Except Failure Fields := do
  let e ← s.entity name facility
  if !isUuid id then .error .nothing
  else
    let response ← s.answer e facility s.settings.maxPageSize (rowRequest e id)
    match response.data with
    | row :: _ => .ok row
    | [] => .error .nothing

/-! ## Exports -/

/-- The names in the columns of a request, as far as they can be told before its shape is known. -/
def requestedNames (payload : Fields) : Except Fault (List Json) :=
  match payload.lookup "columns" with
  | none | some (.str "") | some (.obj []) => .ok []
  | some (.arr items) => items.mapM (·.part "column")
  | some _ => .error .wrongKind

/-- The columns that are exported besides the requested ones. -/
def otherColumns (e : Entity) (distinct : Bool) (names : List Json) : List Json :=
  (e.config.columns.filter fun c =>
    c.isData && !(Json.str c.name).isIn names && !(distinct && c.type.isList)).map fun c => columnEntry (.str c.name)

/-- The columns of a request with others after them. -/
def withColumns (payload : Fields) (others : List Json) : Except Fault Fields :=
  match payload.lookup "columns" with
  | none => .ok (payload.set "columns" (.arr others))
  | some (.arr items) => .ok (payload.set "columns" (.arr (items ++ others)))
  | some _ => .error .wrongKind

/-- The payload of the request for an export: all rows on one page, and all columns if the settings say so. -/
def exportPayload (s : Service) (e : Entity) (payload : Fields) (names : List Json) : Except Fault Fields := do
  let payload ← if s.settings.devMode then
      withColumns payload (otherColumns e (payload.value "distinct").truthy names)
    else pure payload
  return payload.set "paging" (.obj [("size", s.settings.exportMaxRows), ("number", .int 1)])

/-- All rows that a request asks for, as a table. -/
def exportTable (s : Service) (name : String) (facility : Option String) (payload : Fields) :
    Except Failure RenderedTable := do
  let e ← s.entity name facility
  let names ← (requestedNames payload).mapError .fault
  let payload ← (s.exportPayload e payload names).mapError .fault
  let response ← s.answer e facility s.settings.exportMaxRows (← readRequest (.obj payload))
  let columns := names.map fun name => ({ name } : TableColumn)
  match RenderedTable.build (e.config.schema.fields?.getD []) (response.data.map .obj) columns s.settings.devMode
      { label? := fun _ position => .ok (Dictionary.label? position) } with
  | .ok table => .ok table
  | .error (.config e) => .error (.config e)
  | .error (.fault f) => .error (.fault f)

/-- All rows that a request asks for, as a file. -/
def «export» (s : Service) (name : String) (facility : Option String) (payload : Fields) (format : String) :
    Except Failure Export :=
  match ExportFormat.ofName? format with
  | none => .error (.invalid [.at_ "format" (.unknownFormat format)])
  | some format => do
    let table ← s.exportTable name facility payload
    return ⟨format, name ++ "." ++ format.name, ← (format.encode table).mapError .fault⟩

end Service

/-- A request of the right shape written as JSON again. -/
def DataRequest.toFields (d : DataRequest) : Fields :=
  [("columns", .arr (d.columns.map fun name => columnEntry (.str name))), ("filter", d.filter),
    ("sort", .arr (d.sort.map fun i => sortEntry (.str i.column) i.desc)),
    ("paging", .obj ([("size", .int d.paging.size)] ++ (d.paging.number.map (("number", Json.int ·))).toList ++
      (d.paging.offset.map (("offset", Json.int ·))).toList)),
    ("distinct", .bool d.distinct)]

end TableQuery
