import TableQuery.Entity.Dictionary
import TableQuery.Sql.Reach
import TableQuery.Store.Affinity

/-!
# Stored tables

The tables of the store with their columns: what each column holds, what it holds in a new row that does not
say, and whether its values may be missing or shared by two rows. Rows come as JSON objects; `TableDef.row` puts
them into stored form, and `Store.insert` adds them unless a rule for the columns is broken.
-/

set_option autoImplicit false

namespace TableQuery

open Sql (Access Value Row Store)

/-- A column of a stored table. -/
structure StoredColumn where
  name : String
  kind : StoredKind := .text
  /-- The value in a row that does not give one. -/
  initial : Value := .null
  /-- The value may not be missing. -/
  required : Bool := false
  access : Access := .plain

/-- A stored table. -/
structure TableDef where
  name : String
  columns : List StoredColumn

namespace TableDef

/-- The stored form of a row; columns that it does not give have their initial values. -/
def row (t : TableDef) (fields : Fields) : Except RowFault Row :=
  t.columns.mapM fun c => do
    let v ← match fields.lookup c.name with
      | some j => c.kind.store j
      | none => pure c.initial
    return (c.name, v)

def columnNames (t : TableDef) : List String := t.columns.map (·.name)

/-- The column that identifies the rows. -/
def key : StoredColumn := { name := "id", required := true, access := .unique }

/-- A text column that is never empty. -/
def needed (name : String) : StoredColumn := { name, required := true }

/-- A column with the identifier of a row of another table, under which rows are looked up. -/
def link (name : String) : StoredColumn := { name, required := true, access := .indexed }

/-- The first moment of the year 2024, which stands in for an unknown time of creation. -/
def someMoment : Value := .text "2024-01-01 00:00:00.000000"

def facilities : TableDef :=
  ⟨"facilities", [key, needed "name", { name := "url", required := true, access := .unique }]⟩

def users : TableDef :=
  ⟨"users",
    [key, needed "name", { name := "email", access := .unique },
      { name := "is_global_admin", kind := .bool, initial := .ofBool false, required := true },
      { name := "last_login_success_at", kind := .moment },
      { name := "created_at", kind := .moment, initial := someMoment, required := true },
      { name := "updated_at", kind := .moment, initial := someMoment, required := true }]⟩

def staffMembers : TableDef :=
  ⟨"staff_members", [key, { name := "deactivated_at", kind := .moment }]⟩

def clients : TableDef :=
  ⟨"clients",
    [key, { name := "short_code" }, { name := "birth_date", kind := .date }, { name := "type_dict_id" },
      { name := "notes" }]⟩

def members : TableDef :=
  ⟨"members",
    [key, link "user_id", link "facility_id", { name := "staff_member_id" }, { name := "client_id" },
      { name := "has_facility_admin", kind := .bool, initial := .ofBool false, required := true }]⟩

def clientGroups : TableDef :=
  ⟨"client_groups", [key, link "facility_id", needed "name"]⟩

def clientGroupMembers : TableDef :=
  ⟨"client_group_members", [key, link "client_group_id", link "user_id"]⟩

def meetings : TableDef :=
  ⟨"meetings",
    [key, link "facility_id", { name := "date", kind := .date, required := true },
      { name := "start_dayminute", kind := .int, initial := .int 540, required := true },
      { name := "duration_minutes", kind := .int, initial := .int 60, required := true },
      { name := "status_dict_id", initial := .text Dictionary.meetingPlanned, required := true },
      { name := "category_dict_id", initial := .text Dictionary.generalMeeting, required := true },
      { name := "type_dict_id", initial := .text Dictionary.individualMeeting, required := true },
      { name := "is_remote", kind := .bool, initial := .ofBool false, required := true },
      { name := "notes" }, { name := "interval" }, { name := "from_meeting_id" },
      { name := "created_at", kind := .moment, initial := someMoment, required := true },
      needed "created_by_id",
      { name := "updated_at", kind := .moment, initial := someMoment, required := true }]⟩

def meetingAttendants : TableDef :=
  ⟨"meeting_attendants",
    [key, link "meeting_id", link "user_id",
      { name := "attendance_type_dict_id", initial := .text Dictionary.clientAttendant, required := true },
      { name := "attendance_status_dict_id", initial := .text Dictionary.attendanceOk, required := true }]⟩

def log : TableDef :=
  ⟨"log",
    [{ key with kind := .int },
      { name := "timestamp", kind := .moment, initial := someMoment, access := .indexed },
      { name := "method", initial := .text "POST", required := true },
      { name := "path", initial := .text "/", required := true },
      { name := "facility_id", access := .indexed }, { name := "entity" },
      { name := "status_code", kind := .int, initial := .int 200, required := true },
      { name := "client_ip" }, { name := "request_body" }, { name := "response_body" }, { name := "error_type" },
      { name := "processing_time", kind := .real }, { name := "user_agent" }, { name := "username" },
      { name := "hostname" }, { name := "application_id" }]⟩

def all : List TableDef :=
  [facilities, users, staffMembers, clients, members, clientGroups, clientGroupMembers, meetings, meetingAttendants,
    log]

def find? (name : String) : Option TableDef := all.find? (·.name == name)

def indexes (table column : String) : Access :=
  (((find? table).bind fun t => t.columns.find? (·.name == column)).map (·.access)).getD .plain

end TableDef

namespace Sql.Store

/-- The tables with rows at the end of one of them. -/
def append (store : Store) (table : String) (rows : List Row) : Store :=
  if store.tables.any (·.1 == table) then
    ⟨store.tables.map fun p => if p.1 == table then (table, p.2 ++ rows) else p⟩
  else ⟨store.tables ++ [(table, rows)]⟩

/-- The number that a new row of a table gets: one more than the greatest number so far. -/
def nextId (store : Store) (table : String) : Int :=
  let ids := (store.rows table).filterMap fun row => match row.lookup "id" with
    | some (.int i) => some i
    | _ => none
  (ids.max?.map (· + 1)).getD 1

/-- Whether a row keeps the rules for a column of its table. -/
def admits (store : Store) (t : TableDef) (row : Row) (c : StoredColumn) : Bool :=
  let v := (row.lookup c.name).getD .null
  let isTaken := c.access == .unique && v != .null && (store.rows t.name).any (·.lookup c.name == some v)
  let isNumber := match v with
    | .int _ => true
    | _ => false
  !(c.required && v == .null) && !isTaken && (c.name != "id" || c.kind != .int || isNumber)

/-- The store with a new row given as JSON; a row of a numbered table gets the next number if it has none. -/
def insert (store : Store) (t : TableDef) (fields : Fields) : Except RowFault Store := do
  let numbered := t.columns.any fun c => c.name == "id" && c.kind == .int
  let fields :=
    if numbered && (fields.value "id").same .null then
      fields.set "id" (.int (store.nextId t.name))
    else fields
  let row ← t.row fields
  if t.columns.all (store.admits t row) then return store.append t.name [row]
  else .error .ruleBroken

/-- The row of a table with an identifier. -/
def byId? (store : Store) (table id : String) : Option Row :=
  (store.rows table).find? fun row => row.lookup "id" == some (.text id)

end Sql.Store

end TableQuery
