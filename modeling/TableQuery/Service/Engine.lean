import TableQuery.Column.Cell
import TableQuery.Request.Plan
import TableQuery.Sql.Run
import TableQuery.Store.Scope

/-!
# Running requests

`Request.run` runs a request against the store and gives the rows of the page in the form that clients see,
together with the total. Whatever goes wrong once the query is made is one and the same failure to the outside
(`Failure.fatal`).
-/

set_option autoImplicit false

namespace TableQuery

open Sql (Value Store Query)

/-- Why a service cannot answer. -/
inductive Failure where
  /-- The request does not fit. -/
  | invalid (errors : List FieldError)
  /-- There is no such thing, or not for the caller. -/
  | notFound (detail : String)
  /-- The query could not be run; whether its text is told. -/
  | fatal (withText : Bool)
  | config (e : ConfigError)
  | fault (f : Fault)
  deriving Repr

/-- What is said of a thing that is not there. -/
def Failure.nothing : Failure := .notFound "Not found"

def Failure.name : Failure → String
  | invalid _ => "TqueryValidationError"
  | notFound _ => "NotFoundError"
  | fatal _ => "TqueryFatalError"
  | config _ => "TqueryConfigError"
  | fault f => f.name

/-- The message of a failure to run a query. -/
def fatalMessage : String := "Query engine error"

/-- A stored value of a column of some type. -/
def Cell.ofValue (t : ColumnType) : Value → Cell
  | .null => .json .null
  | .int n => .json (.int n)
  | .real x => .json (.double x)
  | .text s =>
    match t.kind with
    | .date => ((Iso.date? s).map Cell.date).getD (.json (.str s))
    | .moment => ((Iso.stamp? s).map Cell.stamp).getD (.json (.str s))
    | _ => .json (.str s)

/-- The data that a request asked for. -/
structure Response where
  columns : List String
  total : Nat
  data : List Fields
  deriving Repr

def Response.toJson (r : Response) : Json :=
  .obj [
    ("meta", .obj [("columns", .arr (r.columns.map fun name => columnEntry (.str name))),
      ("totalDataSize", .int r.total)]),
    ("data", .arr (r.data.map .obj))]

namespace Request

/-- A row of the result in the form that clients see. -/
def shape (columns : List ColumnDef) (values : List Value) : Except Fault Fields :=
  (columns.zip values).mapM fun (c, v) => do return (c.name, ← c.type.render (.ofValue c.type v))

/-- The data of a query for some columns, if it can be run. -/
def fetch (store : Store) (columns : List ColumnDef) (q : Query) : Option Response :=
  if q.resolves && q.canRun TableDef.indexes store then
    match (q.rows store).mapM (shape columns) with
    | .ok data => some ⟨columns.map (·.name), q.total store, data⟩
    | .error _ => none
  else none

/-- The data that a request asks for in the scope of a facility. -/
def run (store : Store) (debug : Bool) (e : Entity) (facility : Option String) (r : Request) :
    Except Failure Response := do
  let q ← (r.plan e facility).mapError .config
  match fetch store r.select q with
  | some response => .ok response
  | none => .error (.fatal debug)

end Request

end TableQuery
