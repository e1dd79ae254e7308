import TableQuery.Calendar.Format
import TableQuery.Entity.Extension
import TableQuery.Json.Printer
import TableQuery.View.Schema

/-!
# Rendered tables

`RenderedTable.build` shows rows of data as texts, in columns that are chosen and possibly named and rendered by
hand. Each kind of column has its own way to show a value: dates and points in time under a format, identifiers
by their first characters, positions of dictionaries by their labels. A table can be written as comma-separated
text (`RenderedTable.toCsv`) or as the cells of a sheet (`RenderedTable.toCells`).
-/

set_option autoImplicit false

namespace TableQuery

/-- A way to show a value that is chosen by hand. -/
inductive Renderer where
  /-- In upper case. -/
  | upper
  /-- Another value of the same row. -/
  | other (key : String)
  deriving DecidableEq, Repr

/-- A column of a table. -/
structure TableColumn where
  name : Json
  /-- What stands at its head instead of the name, if it counts as true. -/
  header : Json := .null
  renderer : Option Renderer := none
  shown : Bool := true
  deriving Repr

/-- How values are shown. -/
structure TableStyle where
  /-- The label of a position of a dictionary, which need not be a text to be asked for. -/
  label? : Json → String → Except Fault (Option String) := fun _ _ => .ok none
  dateFormat : String := "%d.%m.%Y"
  momentFormat : String := "%d.%m.%Y %H:%M"

/-- Why a table cannot be built. -/
inductive TableError where
  | config (e : ConfigError)
  | fault (f : Fault)
  deriving Repr

/-! ## Cells -/

namespace TableStyle

/-- The first characters of an identifier. -/
def shortId (s : String) : String :=
  String.ofList (s.toList.take 8) ++ "…"

/-- The label of a position of the dictionary of a column, or the position itself. -/
def label (style : TableStyle) (column : Fields) (position : String) : Except Fault String := do
  let dictionary := column.value "dictionaryId"
  if dictionary.truthy then return (← style.label? dictionary position).getD position
  else return position

/-- The texts of the members of a list cell: of items, characters or names. -/
def joined (text : String → Except Fault String) (j : Json) : Except Fault String := do
  let members ← Fault.wrongKind.orElse j.elements?
  return ", ".intercalate (← members.mapM fun v => text v.bare)

def date (style : TableStyle) : Json → Except Fault String
  | .str s => do
    let d ← Fault.badValue.orElse (Iso.date? s)
    return Calendar.format style.dateFormat ⟨.midnight d, none⟩
  | _ => .error .missingPart

/-- A point in time under a format. -/
def moment (style : TableStyle) : Json → Except Fault String
  | .str s => do
    let universal := String.ofList (s.toList.flatMap fun c => if c = 'Z' then "+00:00".toList else [c])
    return Calendar.format style.momentFormat (← Fault.badValue.orElse (Iso.stamp? universal))
  | _ => .error .missingPart

/-- A value in a column of some type. -/
def plainCell (style : TableStyle) (column : Fields) (type : String) (j : Json) : Except Fault String :=
  match Kind.all.find? (·.name == type) with
  | some .bool => .ok (if j.truthy then "yes" else "no")
  | some .date => style.date j
  | some .moment => style.moment j
  | some .uuid => .ok (shortId j.bare)
  | some .uuidList => joined (fun s => .ok (shortId s)) j
  | some .dict => style.label column j.bare
  | some .dictList => joined (style.label column) j
  | some .list | some .object => .ok (j.write .spaced)
  | _ => .ok j.bare

/-- Whether nothing is shown for a value: for a missing one, and for an empty list in a column that is not made
for lists of any kind. -/
def isBlank (column : Fields) : Json → Bool
  | .null => true
  | .arr [] => !(column.value "type").isText "list"
  | _ => false

def cell (style : TableStyle) (row column : Fields) (renderer : Option Renderer) (j : Json) : Except Fault String :=
  match renderer with
  | some .upper => .ok (Text.upper j.bare)
  | some (.other key) => .ok (row.value key).bare
  | none =>
    if isBlank column j then .ok ""
    else match column.value "type" with
      | .arr _ | .obj _ => .error .wrongKind
      | type => style.plainCell column (type.str?.getD "") j

end TableStyle

/-! ## Tables -/

/-- A table of texts. -/
structure RenderedTable where
  headers : List Json
  columns : List Json
  rows : List (List String)
  /-- Which columns are shown at first, by name. -/
  shown : List (Json × Bool)
  deriving Repr

/-- The columns of a schema by name; of columns with one name the latest counts, at the place of the first. -/
def ColumnSchemas.distinct (s : ColumnSchemas) : List (Json × Fields) :=
  s.columns.foldl (fun found (name, fields) =>
    if found.any (·.1.same name) then found.map fun p => if p.1.same name then (p.1, fields) else p
    else found ++ [(name, fields)]) []

namespace RenderedTable

/-- The columns of a table with their schemas. -/
def chosen (s : ColumnSchemas) (columns : List TableColumn) : Except ConfigError (List (TableColumn × Fields)) :=
  columns.mapM fun c =>
    match s.find? c.name with
    | some fields => .ok (c, fields)
    | none => .error (.unknownTableColumn c.name)

/-- The data columns that were not chosen, hidden. -/
def others (s : ColumnSchemas) (columns : List TableColumn) : List (TableColumn × Fields) :=
  s.distinct.filterMap fun (name, fields) =>
    if columns.any (fun c => name.same c.name) || (fields.value "type").isText "count" then none
    else some ({ name, shown := false }, fields)

/-- The value of a column in a row: fields are named by texts only. -/
def cellValue (fields : Fields) : Json → Json
  | .str name => Fields.value fields name
  | _ => .null

def row (style : TableStyle) (columns : List (TableColumn × Fields)) (j : Json) : Except Fault (List String) :=
  columns.mapM fun (c, column) =>
    match j with
    | .obj fields => style.cell fields column c.renderer (cellValue fields c.name)
    | _ => .error .missingPart

/-- Values under names; of several under one name the last counts. -/
def byName (entries : List (Json × Bool)) : List (Json × Bool) :=
  entries.foldl (fun found (name, b) =>
    if found.any (·.1.same name) then found.map fun p => if p.1.same name then (p.1, b) else p
    else found ++ [(name, b)]) []

/-- The table of rows of data in chosen columns, to which all others are added if `all` is set. -/
def build (schema : Fields) (data : List Json) (columns : List TableColumn) (all : Bool) (style : TableStyle) :
    Except TableError RenderedTable := do
  let s ← (ColumnSchemas.ofFields schema).mapError .fault
  let configs := (← (chosen s columns).mapError .config) ++ if all then others s columns else []
  let rows ← (data.mapM (row style configs)).mapError .fault
  return {
    headers := configs.map fun (c, _) => if c.header.truthy then c.header else c.name
    columns := configs.map (·.1.name)
    rows
    shown := byName (configs.map fun (c, _) => (c.name, c.shown)) }

/-! ## Files -/

/-- Whether a field of comma-separated text needs quotes. -/
def needsQuotes (s : String) : Bool :=
  s.any fun c => c == ',' || c == '"' || c == '\n'

/-- A text between double quotes, a quote in it written twice. -/
def quoted (s : String) : String :=
  String.ofList ('"' :: s.toList.flatMap (fun c => if c = '"' then ['"', '"'] else [c]) ++ ['"'])

/-- A line of comma-separated text; an empty field that stands alone is quoted. -/
def csvLine (fields : List String) : String :=
  let texts :=
    match fields with
    | [""] => [quoted ""]
    | fields => fields.map fun s => if needsQuotes s then quoted s else s
  ",".intercalate texts ++ "\n"

/-- The text of a header; one that is missing is empty. -/
def headerText : Json → String
  | .null => ""
  | j => j.bare

/-- The table as comma-separated text. -/
def toCsv (t : RenderedTable) : String :=
  String.join ((t.headers.map headerText :: t.rows).map csvLine)

/-- A control character that a sheet cannot hold: any but a tab and the ends of lines. -/
def isForbidden (c : Char) : Bool :=
  c.toNat < 32 && c != '\t' && c != '\n' && c != '\r'

/-- A text with every end of a line written as a line feed. -/
def unixLines : List Char → List Char
  | '\r' :: '\n' :: cs | '\r' :: cs => '\n' :: unixLines cs
  | c :: cs => c :: unixLines cs
  | [] => []

/-- The number of characters that a cell of a sheet holds at most. -/
def cellLimit : Nat := 32767

/-- A value as the cell of a sheet; an empty text leaves the cell empty. -/
def sheetCell : Json → Except Fault Json
  | .str s =>
    let kept := s.toList.take cellLimit
    if kept.any isForbidden then .error .badCharacter
    else if kept.isEmpty then .ok .null
    else .ok (.str (String.ofList (unixLines kept)))
  | j => .ok j

/-- The table as the cells of a sheet. Without columns there are no cells. -/
def toCells (t : RenderedTable) : Except Fault (List (List Json)) :=
  if t.headers.isEmpty then .ok []
  else (t.headers :: t.rows.map (·.map .str)).mapM (·.mapM sheetCell)

end RenderedTable

end TableQuery
