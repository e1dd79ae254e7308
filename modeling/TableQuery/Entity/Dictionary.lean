/-!
# Dictionaries

The lookup dictionaries that columns refer to, and the positions that have a label.
-/

set_option autoImplicit false

namespace TableQuery.Dictionary

/-! ## Dictionaries -/

def attendanceType : String := "e2ba36ab-7f4e-4b55-8b48-5c5a1f1a0a01"
def attendanceStatus : String := "e2ba36ab-7f4e-4b55-8b48-5c5a1f1a0a02"
def meetingStatus : String := "e2ba36ab-7f4e-4b55-8b48-5c5a1f1a0a03"
def meetingCategory : String := "e2ba36ab-7f4e-4b55-8b48-5c5a1f1a0a04"
def meetingType : String := "e2ba36ab-7f4e-4b55-8b48-5c5a1f1a0a05"
def clientType : String := "e2ba36ab-7f4e-4b55-8b48-5c5a1f1a0a06"

/-! ## Positions -/

def staffAttendant : String := "1f0e4a4c-0000-4000-8000-000000000101"
def clientAttendant : String := "1f0e4a4c-0000-4000-8000-000000000102"
def attendanceOk : String := "1f0e4a4c-0000-4000-8000-000000000201"
def attendanceCancelled : String := "1f0e4a4c-0000-4000-8000-000000000202"
def meetingPlanned : String := "1f0e4a4c-0000-4000-8000-000000000301"
def meetingCompleted : String := "1f0e4a4c-0000-4000-8000-000000000302"
def generalMeeting : String := "1f0e4a4c-0000-4000-8000-000000000401"
def individualMeeting : String := "1f0e4a4c-0000-4000-8000-000000000501"
def adultClient : String := "1f0e4a4c-0000-4000-8000-000000000601"
def childClient : String := "1f0e4a4c-0000-4000-8000-000000000602"

def labels : List (String × String) :=
  [(staffAttendant, "Staff"), (clientAttendant, "Client"), (attendanceOk, "OK"), (attendanceCancelled, "Cancelled"),
    (meetingPlanned, "Planned"), (meetingCompleted, "Completed"), (generalMeeting, "General"),
    (individualMeeting, "Individual"), (adultClient, "Adult"), (childClient, "Child")]

/-- The label of a position; the positions of all dictionaries are different. -/
def label? (position : String) : Option String :=
  labels.lookup position

end TableQuery.Dictionary
