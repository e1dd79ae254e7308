import TableQuery.Store.Table

/-!
# Sample data

A demonstration facility with two members of staff, three clients and five meetings on five days from a given
one, for a store in which there is no facility yet.
-/

set_option autoImplicit false

namespace TableQuery.Sample

open Sql (Store)

/-- The identifier of the `n`th row of the sample data of some kind. -/
def id (kind : Char) (n : Nat) : String :=
  "5a3b1e00-0000-4000-8000-" ++ kind.toString ++ String.ofList (List.replicate 10 '0') ++ toString n

def facility : String := id 'f' 0

def staffId (n : Nat) : String := id 'a' n
def clientId (n : Nat) : String := id 'c' n

/-- The user who is the `n`th member of staff. -/
def staffUserId (n : Nat) : String := id 'b' n

/-- The user who is the `n`th client. -/
def clientUserId (n : Nat) : String := id 'd' n

abbrev NewRow := TableDef × Fields

def texts (t : TableDef) (fields : List (String × String)) : NewRow := (t, fields.map fun (k, v) => (k, .str v))

/-- A member of staff with a user and a membership. -/
def staffRows (now : Moment) (n : Nat) (name email : String) : List NewRow :=
  [texts .staffMembers [("id", staffId n)],
    texts .users [("id", staffUserId n), ("name", name), ("email", email), ("created_at", now.toText "T"),
      ("updated_at", now.toText "T")],
    texts .members [("id", id '1' n), ("user_id", staffUserId n), ("facility_id", facility),
      ("staff_member_id", staffId n)]]

def clientRows (now : Moment) (n : Nat) (name birthDate : String) : List NewRow :=
  [texts .clients [("id", clientId n), ("short_code", "C00" ++ toString (n + 1)), ("birth_date", birthDate),
      ("type_dict_id", Dictionary.adultClient)],
    texts .users [("id", clientUserId n), ("name", name), ("created_at", now.toText "T"),
      ("updated_at", now.toText "T")],
    texts .members [("id", id '2' n), ("user_id", clientUserId n), ("facility_id", facility),
      ("client_id", clientId n)]]

/-- The meeting on the `n`th day, with a member of staff and a client. -/
def meetingRows (now : Moment) (n : Nat) : List NewRow :=
  let date := (Date.ofOrdinal? (now.date.ordinal + n)).getD now.date
  [(.meetings,
      [("id", .str (id '3' n)), ("facility_id", .str facility), ("date", .str date.toText),
        ("start_dayminute", .int (540 + 30 * n)), ("duration_minutes", .int 60),
        ("status_dict_id", .str (if n = 0 then Dictionary.meetingCompleted else Dictionary.meetingPlanned)),
        ("category_dict_id", .str Dictionary.generalMeeting), ("type_dict_id", .str Dictionary.individualMeeting),
        ("is_remote", .bool (n % 2 == 1)), ("notes", if n % 2 = 1 then .null else .str "Initial consultation"),
        ("created_at", .str (now.toText "T")), ("created_by_id", .str (staffUserId 0)),
        ("updated_at", .str (now.toText "T"))]),
    texts .meetingAttendants [("id", id '4' n), ("meeting_id", id '3' n), ("user_id", staffUserId (n % 2)),
      ("attendance_type_dict_id", Dictionary.staffAttendant), ("attendance_status_dict_id", Dictionary.attendanceOk)],
    texts .meetingAttendants [("id", id '5' n), ("meeting_id", id '3' n), ("user_id", clientUserId (n % 3)),
      ("attendance_type_dict_id", Dictionary.clientAttendant), ("attendance_status_dict_id", Dictionary.attendanceOk)]]

def rows (now : Moment) : List NewRow :=
  [texts .facilities [("id", facility), ("name", "Demo facility"), ("url", "demo")]] ++
    staffRows now 0 "Anna Kowalska" "anna@example.com" ++ staffRows now 1 "Jan Nowak" "jan@example.com" ++
    clientRows now 0 "Ewa Zielinska" "1980-01-10" ++ clientRows now 1 "Piotr Wisniewski" "1981-02-10" ++
    clientRows now 2 "Maria Lewandowska" "1982-03-10" ++
    [texts .clientGroups [("id", id '6' 0), ("facility_id", facility), ("name", "Family")],
      texts .clientGroupMembers [("id", id '7' 0), ("client_group_id", id '6' 0), ("user_id", clientUserId 0)],
      texts .clientGroupMembers [("id", id '7' 1), ("client_group_id", id '6' 0), ("user_id", clientUserId 1)]] ++
    (List.range 5).flatMap (meetingRows now)

/-- The facility that was made, if there was none before, and the store with the sample data. Nothing is stored
if some row cannot be. -/
def addTo (store : Store) (now : Moment) : Except RowFault (Option String × Store) :=
  if (store.rows TableDef.facilities.name).isEmpty then do
    return (some facility, ← (rows now).foldlM (fun store (t, fields) => store.insert t fields) store)
  else return (none, store)

/-- What is told about the outcome. -/
def report : Option String → String
  | some facility => "✅ Sample data created for facility " ++ facility ++ "\n"
  | none => "Sample data already exists. Skipping creation.\n"

end TableQuery.Sample
