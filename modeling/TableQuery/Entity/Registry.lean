import TableQuery.Entity.Extension
import TableQuery.Store.Table

/-!
# The entities

The kinds of entities that can be queried: for each its base table, its configuration, and the column that
limits its rows to one facility. Entities without such a column are for the administration of all facilities.
Configurations share parts: clients and staff are users of a facility, attendants and clients of meetings are
meetings joined to their attendants.
-/

set_option autoImplicit false

namespace TableQuery

open Sql (Ref Table Scalar Members Condition Clause)

/-- A kind of entity. -/
structure Entity where
  name : String
  base : Table
  config : EntityConfig
  /-- The column that holds the facility of a row. -/
  scope : Option Ref := none
  deriving Inhabited

namespace Entity

/-- The clauses that limit the rows to a facility. -/
def scopeClauses (e : Entity) (facility : Option String) : List Clause :=
  match e.scope, facility with
  | none, _ => []
  | some r, some f => [.compare .eq (.plain (.column r)) (.text f)]
  | some r, none => [.nullTest (.column r) false]

/-- Whether the rows belong to facilities. -/
def isScoped (e : Entity) : Bool := e.scope.isSome

def named (t : TableDef) (name : String) : Table := ⟨t.name, some name⟩

/-- A join of a table under an alias, on the equality of two columns. -/
def joinOn (t : TableDef) (name column : String) (parent : Ref) (dependsOn : List String := [])
    (required : Bool := false) : JoinDef :=
  { key := name, «from» := named t name, on := [.sameAs ⟨name, column⟩ parent], dependsOn, required,
    columns := t.columnNames }

def column (name : String) (type : ColumnType) (ref : Ref) (searchable : Bool := false)
    (dictionary : Json := .null) : Extension :=
  .column { name, type, source := .value (.column ref), searchable, dictionary }

/-- A column that tells whether a stored column is missing, or is there. -/
def nullColumn (name : String) (type : ColumnType) (ref : Ref) (join : Option String := none) : Extension :=
  .column { name, type, source := .value (.nullTest ref (type == .isNotNull)), join }

def suggestColumns (names : List String) : Extension :=
  .suggestColumns (.arr (names.map .str))

def listColumn (name : String) (members : Members) : Extension :=
  .column { name, type := .plain .uuidList, source := .members members }

/-! ## Users -/

def user (column : String) : Ref := ⟨"users", column⟩

def userColumns : List Extension :=
  [column "id" (.plain .uuid) (user "id"),
    column "name" (.plain .string) (user "name") true,
    column "email" .stringNullable (user "email") true,
    nullColumn "hasEmail" .isNotNull (user "email"),
    column "createdAt" (.plain .moment) (user "created_at"),
    column "updatedAt" (.plain .moment) (user "updated_at")]

def usersConfig : EntityConfig :=
  (EntityConfig.extended {} (userColumns ++
    [column "isGlobalAdmin" (.plain .bool) (user "is_global_admin"),
      column "lastLoginSuccessAt" .momentNullable (user "last_login_success_at"),
      listColumn "facilities"
        { value := ⟨"member_facilities", "facility_id"⟩, table := named .members "member_facilities",
          child := ⟨"member_facilities", "user_id"⟩, parent := user "id" },
      suggestColumns ["name", "email", "isGlobalAdmin", "lastLoginSuccessAt"],
      .suggestSort [{ column := .str "name" }]])).withCount

def membersJoin : JoinDef := joinOn .members "members" "user_id" (user "id") [] true

def memberScope : Ref := ⟨"members", "facility_id"⟩

def facilityUsersConfig : EntityConfig :=
  EntityConfig.extended {} (userColumns ++
    [.joined (.plain .bool) membersJoin "has_facility_admin" "member.hasFacilityAdmin" .null false])

def staffJoin : JoinDef :=
  joinOn .staffMembers "staff_members" "id" ⟨"members", "staff_member_id"⟩ ["members"] true

def staffConfig : EntityConfig :=
  (facilityUsersConfig.extended
    [.joined .momentNullable staffJoin "deactivated_at" "staff.deactivatedAt" .null false,
      nullColumn "staff.isActive" .isNull ⟨"staff_members", "deactivated_at"⟩ (some "staff_members"),
      suggestColumns ["name", "email", "staff.isActive", "member.hasFacilityAdmin"],
      .suggestSort [{ column := .str "name" }]]).withCount

def clientJoin : JoinDef := joinOn .clients "clients" "id" ⟨"members", "client_id"⟩ ["members"] true

def clientsConfig : EntityConfig :=
  (facilityUsersConfig.extended
    [.joined .stringNullable clientJoin "short_code" "client.shortCode" .null true,
      .joined .dateNullable clientJoin "birth_date" "client.birthDate" .null false,
      .joined .dictNullable clientJoin "type_dict_id" "client.typeDictId" (.str Dictionary.clientType) false,
      .joined .textNullable clientJoin "notes" "client.notes" .null true,
      listColumn "groups"
        { value := ⟨"group_members", "client_group_id"⟩, table := named .clientGroupMembers "group_members",
          child := ⟨"group_members", "user_id"⟩, parent := user "id" },
      suggestColumns ["name", "client.shortCode", "client.birthDate", "client.typeDictId"],
      .suggestSort [{ column := .str "name" }]]).withCount

/-! ## Meetings -/

def meeting (column : String) : Ref := ⟨"meetings", column⟩

/-- A column of the attendants that a list looks at. -/
def listed (column : String) : Ref := ⟨"list_attendants", column⟩

/-- The attendants of a meeting that satisfy some criteria. -/
def attendants (criteria : List Condition) : Members :=
  { value := listed "user_id", table := named .meetingAttendants "list_attendants",
    child := listed "meeting_id", parent := meeting "id", criteria }

def attendantsOf (kind : String) : Members :=
  attendants [.equals (listed "attendance_type_dict_id") (.text kind)]

/-- The user who entered a meeting. -/
def createdByJoin : JoinDef := joinOn .users "created_by" "id" (meeting "created_by_id")

/-- The filter for meetings that some of the given users attend. -/
def isAttendant : CustomFilterDef :=
  { name := "isAttendant", associatedColumn := "attendants",
    model := "IsAttendantParams", wantedKey := "userIds", kindKey := "attendanceTypeDictId",
    rows := { attendants [] with value := listed "id" },
    member := listed "user_id", memberKind := listed "attendance_type_dict_id" }

/-- What meetings have, however they are joined. -/
def meetingsBaseConfig : EntityConfig :=
  EntityConfig.extended {}
    [column "id" (.plain .uuid) (meeting "id"),
      column "date" (.plain .date) (meeting "date"),
      column "startDayminute" (.plain .int) (meeting "start_dayminute"),
      column "durationMinutes" (.plain .int) (meeting "duration_minutes"),
      column "statusDictId" (.plain .dict) (meeting "status_dict_id") false (.str Dictionary.meetingStatus),
      column "categoryDictId" (.plain .dict) (meeting "category_dict_id") false (.str Dictionary.meetingCategory),
      column "typeDictId" (.plain .dict) (meeting "type_dict_id") false (.str Dictionary.meetingType),
      column "isRemote" (.plain .bool) (meeting "is_remote"),
      column "notes" .textNullable (meeting "notes") true,
      column "interval" .stringNullable (meeting "interval"),
      column "fromMeetingId" .uuidNullable (meeting "from_meeting_id"),
      nullColumn "isClone" .isNotNull (meeting "from_meeting_id"),
      column "createdAt" (.plain .moment) (meeting "created_at"),
      .joined (.plain .uuid) createdByJoin "id" "createdBy.id" .null false,
      .joined (.plain .string) createdByJoin "name" "createdBy.name" .null true,
      column "updatedAt" (.plain .moment) (meeting "updated_at"),
      listColumn "attendants" (attendants []),
      listColumn "staff" (attendantsOf Dictionary.staffAttendant),
      listColumn "clients" (attendantsOf Dictionary.clientAttendant),
      .customFilter isAttendant,
      suggestColumns ["date", "startDayminute", "durationMinutes", "statusDictId", "staff", "clients"],
      .suggestSort [{ column := .str "date", desc := true }, { column := .str "startDayminute" }]]

def meetingsConfig : EntityConfig := meetingsBaseConfig.withCount

def meetingScope : Ref := meeting "facility_id"

def attendantsJoin : JoinDef :=
  joinOn .meetingAttendants "meeting_attendants" "meeting_id" (meeting "id") [] true

def attendantJoin : JoinDef :=
  joinOn .users "attendant" "id" ⟨"meeting_attendants", "user_id"⟩ ["meeting_attendants"]

/-- The meetings of a facility, once for each attendant. -/
def meetingAttendantsConfig : EntityConfig :=
  (meetingsBaseConfig.extended
    [.joined (.plain .uuid) attendantsJoin "user_id" "attendant.userId" .null false,
      .joined (.plain .string) attendantJoin "name" "attendant.name" .null true,
      .joined (.plain .dict) attendantsJoin "attendance_type_dict_id" "attendant.attendanceTypeDictId"
        (.str Dictionary.attendanceType) false,
      .joined (.plain .dict) attendantsJoin "attendance_status_dict_id" "attendant.attendanceStatusDictId"
        (.str Dictionary.attendanceStatus) false,
      suggestColumns ["date", "startDayminute", "attendant.name", "attendant.attendanceStatusDictId"]]).withCount

def clientAttendantsJoin : JoinDef :=
  let j := joinOn .meetingAttendants "client_attendants" "meeting_id" (meeting "id") [] true
  { j with
    on := j.on ++ [.equals ⟨"client_attendants", "attendance_type_dict_id"⟩ (.text Dictionary.clientAttendant)] }

def clientUserJoin : JoinDef :=
  joinOn .users "client_user" "id" ⟨"client_attendants", "user_id"⟩ ["client_attendants"]

/-- The meetings of a facility, once for each client who attends. -/
def meetingClientsConfig : EntityConfig :=
  (meetingsBaseConfig.extended
    [.joined (.plain .uuid) clientAttendantsJoin "user_id" "client.userId" .null false,
      .joined (.plain .string) clientUserJoin "name" "client.name" .null true,
      .joined (.plain .dict) clientAttendantsJoin "attendance_status_dict_id" "client.attendanceStatusDictId"
        (.str Dictionary.attendanceStatus) false,
      suggestColumns ["date", "client.name", "statusDictId", "client.attendanceStatusDictId"]]).withCount

/-! ## The request log -/

/-- A column of the request log. -/
def logged (column : String) : Ref := ⟨"log", column⟩

def logsConfig : EntityConfig :=
  (EntityConfig.extended {}
    [column "id" (.plain .int) (logged "id"),
      column "timestamp" .momentNullable (logged "timestamp"),
      column "method" (.plain .string) (logged "method"),
      column "path" (.plain .string) (logged "path") true,
      column "facilityId" .uuidNullable (logged "facility_id"),
      column "entity" .stringNullable (logged "entity") true,
      column "statusCode" (.plain .int) (logged "status_code"),
      column "errorType" .stringNullable (logged "error_type") true,
      column "processingTime" .wholeNullable (logged "processing_time"),
      column "clientIp" .stringNullable (logged "client_ip"),
      column "userAgent" .stringNullable (logged "user_agent"),
      column "username" .stringNullable (logged "username") true,
      column "hostname" .stringNullable (logged "hostname"),
      column "applicationId" .stringNullable (logged "application_id"),
      column "requestBody" .textNullable (logged "request_body"),
      column "responseBody" .textNullable (logged "response_body"),
      suggestColumns ["timestamp", "method", "path", "statusCode", "processingTime"],
      .suggestSort [{ column := .str "timestamp", desc := true }]]).withCount

/-! ## The registry -/

def users : Entity := ⟨"users", named .users "users", usersConfig, none⟩
def logs : Entity := ⟨"logs", named .log "log", logsConfig, none⟩
def staff : Entity := ⟨"staff", named .users "users", staffConfig, some memberScope⟩
def clients : Entity := ⟨"clients", named .users "users", clientsConfig, some memberScope⟩
def meetings : Entity := ⟨"meetings", named .meetings "meetings", meetingsConfig, some meetingScope⟩
def meetingAttendants : Entity :=
  ⟨"meeting_attendants", named .meetings "meetings", meetingAttendantsConfig, some meetingScope⟩
def meetingClients : Entity :=
  ⟨"meeting_clients", named .meetings "meetings", meetingClientsConfig, some meetingScope⟩

def all : List Entity := [users, logs, staff, clients, meetings, meetingAttendants, meetingClients]

def find? (name : String) : Option Entity := all.find? (·.name == name)

end Entity

end TableQuery
