import TableQuery.Json.Basic
import TableQuery.Text.Case

/-!
# Settings

The limits that a service runs under and the rule by which switches are read from the environment.
-/

set_option autoImplicit false

namespace TableQuery

/-- The limits and switches of a service. -/
structure Settings where
  defaultPageSize : Nat := 50
  maxPageSize : Json := .int 1000
  exportMaxRows : Json := .int 50000
  /-- Answers and failures of the engine tell that there is a query text. -/
  debug : Bool := false
  /-- Exports get the columns that were not asked for as well. -/
  devMode : Bool := false
  applicationId : String := "Unknown"

def switchWords : List String := ["1", "true", "yes", "on"]

/-- Whether a switch is on: its value is one of the words in any case, or it has no value and is on by default. -/
def readSwitch (value : Option String) (default : Bool) : Bool :=
  match value with
  | some s => switchWords.contains (Text.lower s)
  | none => default

end TableQuery
