import TableQuery.Column.Operand
import TableQuery.Text.Quoted

/-!
# Complaints about requests

What can be wrong with a request, each with its message and a code that programs can act on. A `FieldError` is a
complaint with the path to the field that it is about. Checks collect all errors: `Checked.both` and
`Checked.all` succeed only if all parts do and otherwise give the errors of all parts in order, and what they refuse
is refused with a reason if that is so of the parts (`Checked.Explained`). A reading that is `Reporting` is given what
has been told of a request before, and adds what it has to tell.
-/

set_option autoImplicit false

namespace TableQuery

/-- What is wrong with a field of a request. -/
inductive Complaint where
  -- the shape of a payload
  | missing
  | extra
  | notRecord (model : String)
  | notFields
  | notObject
  | notList
  | emptyList
  | notText
  | notOneOf (choices : List String)
  | unreadableInteger
  | oversizedInteger
  | fractional
  | notFinite
  | notInteger
  | unreadableBoolean
  | notBoolean
  | bothPositions
  | notJson
  -- columns, sort and paging
  | unknownColumn (name : Json)
  | selectedTwice (name : String)
  | countNotDistinct
  | listInDistinct
  | notSortable (name : String)
  | notSelected
  | pageSize (max : Json)
  | pageNumber
  | negativeOffset
  -- filters
  | notFilter
  | unknownFilterType (type : Json)
  | unexpectedField
  | inversionNotBoolean
  | unknownBoolOperator
  | noFilters
  | operatorNotAllowed (operator : Json) (column : String)
  | valueOfNull
  | valueRequired
  | noValues
  | operand (p : Problem)
  | unknownCustomFilter (name : Json)
  | globalOperator
  | globalText
  -- exports
  | unknownFormat (format : String)
  deriving Repr

namespace Complaint

/-- Choices in a message: each quoted, the last one after an "or". -/
def choicesText : List String → String
  | [] => ""
  | [c] => Text.quoted c
  | [c, d] => Text.quoted c ++ " or " ++ Text.quoted d
  | c :: cs => Text.quoted c ++ ", " ++ choicesText cs

def message : Complaint → String
  | missing => "Field required"
  | extra => "Extra inputs are not permitted"
  | notRecord m => "Input should be a valid dictionary or instance of " ++ m
  | notFields => "Input should be a valid dictionary or object to extract fields from"
  | notObject => "Input should be a valid dictionary"
  | notList => "Input should be a valid list"
  | emptyList => "List should have at least 1 item after validation, not 0"
  | notText => "Input should be a valid string"
  | notOneOf cs => "Input should be " ++ choicesText cs
  | unreadableInteger => "Input should be a valid integer, unable to parse string as an integer"
  | oversizedInteger => "Unable to parse input string as an integer, exceeded maximum size"
  | fractional => "Input should be a valid integer, got a number with a fractional part"
  | notFinite => "Input should be a finite number"
  | notInteger => "Input should be a valid integer"
  | unreadableBoolean => "Input should be a valid boolean, unable to interpret input"
  | notBoolean => "Input should be a valid boolean"
  | bothPositions => "Value error, Only one of number and offset can be specified"
  | notJson => "JSON decode error"
  | unknownColumn n => "Unknown column " ++ n.display ++ "."
  | selectedTwice n => "Column " ++ Text.quoted n ++ " is selected more than once."
  | countNotDistinct => "The count column requires a distinct request."
  | listInDistinct => "List columns cannot be selected in a distinct request."
  | notSortable n => "Column " ++ Text.quoted n ++ " is not sortable."
  | notSelected => "A distinct request can only be sorted by selected columns."
  | pageSize max => "The page size must be between 1 and " ++ max.bare ++ "."
  | pageNumber => "The page number must be at least 1."
  | negativeOffset => "The offset must not be negative."
  | notFilter => "The filter must be \"always\", \"never\" or an object."
  | unknownFilterType t => "Unknown filter type " ++ t.display ++ "."
  | unexpectedField => "Unexpected field."
  | inversionNotBoolean => "The value must be a boolean."
  | unknownBoolOperator => "The operator must be \"&\" or \"|\"."
  | noFilters => "The value must be a non-empty list of filters."
  | operatorNotAllowed o c => "Operator " ++ o.display ++ " is not allowed for column " ++ Text.quoted c ++ "."
  | valueOfNull => "The null operator takes no value."
  | valueRequired => "The value is required."
  | noValues => "The value must be a non-empty list."
  | operand p => p.message
  | unknownCustomFilter n => "Unknown custom filter " ++ n.display ++ "."
  | globalOperator => "The global filter operator must be \"%v%\"."
  | globalText => "The value must be a string."
  | unknownFormat f => "Unknown export format: " ++ f

def code : Complaint → String
  | missing | valueRequired => "missing"
  | extra | unexpectedField | valueOfNull => "extra_forbidden"
  | notRecord _ => "model_type"
  | notFields => "model_attributes_type"
  | notObject => "dict_type"
  | notList => "list_type"
  | emptyList => "too_short"
  | notText => "string_type"
  | notOneOf _ => "literal_error"
  | unreadableInteger => "int_parsing"
  | oversizedInteger => "int_parsing_size"
  | fractional => "int_from_float"
  | notFinite => "finite_number"
  | notInteger => "int_type"
  | unreadableBoolean => "bool_parsing"
  | notBoolean => "bool_type"
  | bothPositions => "value_error"
  | notJson => "json_invalid"
  | unknownColumn _ => "unknown_column"
  | selectedTwice _ => "duplicate"
  | countNotDistinct => "count_without_distinct"
  | listInDistinct => "list_in_distinct"
  | notSortable _ => "not_sortable"
  | notSelected => "not_selected"
  | pageSize _ | pageNumber | negativeOffset => "out_of_range"
  | unknownFilterType _ => "unknown_filter_type"
  | unknownBoolOperator | operatorNotAllowed _ _ | globalOperator => "unknown_operator"
  | unknownCustomFilter _ => "unknown_custom_filter"
  | notFilter | inversionNotBoolean | noFilters | noValues | operand _ | globalText | unknownFormat _ => "invalid"

end Complaint

/-- Parts of a path with dots between them; empty ones do not show. -/
def dotted (parts : List String) : String := ".".intercalate (parts.filter (· != ""))

/-- A complaint about the field at the end of a path. -/
structure FieldError where
  path : List String
  complaint : Complaint
  deriving Repr

namespace FieldError

def whole (c : Complaint) : FieldError := ⟨[], c⟩

/-- A complaint about one field. -/
def at_ (name : String) (c : Complaint) : FieldError := ⟨[name], c⟩

/-- The error as seen from above: its path starts with more parts. -/
def under (parts : List String) (e : FieldError) : FieldError := { e with path := parts ++ e.path }

/-- The dotted path of an error; empty parts do not show. -/
def field (e : FieldError) : String := dotted e.path

/-- The error in a value that stands at a dotted path, with the dotted path of its field. -/
def placed (path : String) (e : FieldError) : FieldError := .at_ (dotted (path :: e.path)) e.complaint

/-- The dotted path of an error with all its parts. -/
def fullField (e : FieldError) : String := ".".intercalate e.path

/-- The error in an answer, with its path written as given. -/
def toJson (field : String) (e : FieldError) : Json :=
  .obj [("field", .str field), ("message", .str e.complaint.message), ("type", .str e.complaint.code)]

def summary (es : List FieldError) : String :=
  "; ".intercalate (es.map fun e => e.field ++ ": " ++ e.complaint.message)

end FieldError

abbrev Checked (α : Type) := Except (List FieldError) α

namespace Checked

/-- A value with one complaint about it as a whole. -/
def fail {α : Type} (c : Complaint) : Checked α := .error [.whole c]

def errors {α : Type} : Checked α → List FieldError
  | .ok _ => []
  | .error es => es

/-- The value together with errors of its own, which come first. -/
def after {α : Type} (own : List FieldError) (c : Checked α) : Checked α :=
  match c with
  | .ok a => if own.isEmpty then .ok a else .error own
  | .error es => .error (own ++ es)

/-- Two values, or the errors of both. -/
def both {α β : Type} (a : Checked α) (b : Checked β) : Checked (α × β) :=
  match a, b with
  | .ok a, .ok b => .ok (a, b)
  | a, b => .error (a.errors ++ b.errors)

/-- A list of values, or the errors of all. -/
def all {α : Type} : List (Checked α) → Checked (List α)
  | [] => .ok []
  | c :: cs => (both c (all cs)).map fun p => p.1 :: p.2

/-- The value as seen from above: errors get longer paths. -/
def under {α : Type} (parts : List String) (c : Checked α) : Checked α :=
  c.mapError (·.map (.under parts))

/-- Checked items of a list, each under its position. -/
def numbered {α : Type} (cs : List (Checked α)) : Checked (List α) :=
  all (cs.zipIdx.map fun (c, i) => c.under [toString i])

section Explained

variable {α β : Type}

/-- What is refused is refused with complaints. -/
def Explained (c : Checked α) : Prop :=
  ∀ es, c = .error es → es ≠ []

namespace Explained

theorem ok (a : α) : Explained (.ok a) := by
  intro es h
  cases h

theorem error {e : FieldError} {es : List FieldError} : Explained (.error (e :: es) : Checked α) := by
  intro es' h
  cases h
  exact List.cons_ne_nil _ _

theorem fail (c : Complaint) : Explained (.fail c : Checked α) := error

variable {c : Checked α} {d : Checked β}

theorem map (h : c.Explained) (f : α → β) : Explained (c.map f) := by
  cases c with
  | ok a => exact ok _
  | error es => exact fun es' hes => h es' (congrArg Except.error (Except.error.inj hes))

theorem under (h : c.Explained) (parts : List String) : (c.under parts).Explained := by
  cases c with
  | ok a => exact ok _
  | error es =>
    intro es' hes
    cases hes
    simpa using h es rfl

theorem both (hc : c.Explained) (hd : d.Explained) : (c.both d).Explained := by
  cases c with
  | error es =>
    intro es' hes
    cases hes
    simp [errors, hc es rfl]
  | ok a =>
    cases d with
    | ok b => exact ok _
    | error es =>
      intro es' hes
      cases hes
      simp [errors, hd es rfl]

theorem all {cs : List (Checked α)} (h : ∀ c ∈ cs, c.Explained) : (Checked.all cs).Explained := by
  induction cs with
  | nil => exact ok _
  | cons c cs ih =>
    have hrest := ih fun d hd => h d (List.mem_cons_of_mem _ hd)
    exact ((h c List.mem_cons_self).both hrest).map _

theorem numbered {cs : List (Checked α)} (h : ∀ c ∈ cs, c.Explained) : (Checked.numbered cs).Explained := by
  refine all fun c hc => ?_
  obtain ⟨⟨d, i⟩, hd, rfl⟩ := List.mem_map.1 hc
  exact (h d (List.mem_of_getElem? (List.mem_zipIdx_iff_getElem?.1 hd))).under _

end Explained

end Explained

end Checked

/-! ## Reports -/

/-- A reading that tells what is wrong: it is given what has been told before, and adds to it. -/
abbrev Reporting (α : Type) := StateT (List FieldError) (Except Fault) α

namespace Reporting

/-- Tells what is wrong with the field at a dotted path. -/
def tell (path : String) (c : Complaint) : Reporting Unit :=
  modify (· ++ [.at_ path c])

/-- Tells what is wrong with a value that stands at a dotted path. -/
def tellAll (path : String) (es : List FieldError) : Reporting Unit :=
  modify (· ++ es.map (.placed path))

/-- Tells what is wrong, and gives nothing. -/
def refuse {α : Type} (path : String) (c : Complaint) : Reporting (Option α) := do
  tell path c
  return none

/-- The value that has been found, or all that has been told. -/
def conclude {α : Type} : Option α → List FieldError → Checked α
  | some a, [] => .ok a
  | _, told => .error told

end Reporting

end TableQuery
