import TableQuery.Request.Complaint
import TableQuery.Number.Numeral
import TableQuery.Text.Case

/-!
# The shape of a request

`DataRequest.read` reads a request from JSON: which columns, which rows, in what order, and which page of them.
Everything that does not have the right shape is reported, in the order of the fields, fields that do not belong
last. Whether the columns exist and what the filter means is not looked at here.

Readers are lenient with numbers and truth values: a whole double and a text of digits are integers, and some
words and the numbers 0 and 1 are truth values.
-/

set_option autoImplicit false

namespace TableQuery

open Number (Double)

/-- Reads a value of some shape. -/
abbrev Reader (α : Type) := Json → Checked α

namespace Reader

def text : Reader String
  | .str s => .ok s
  | _ => .fail .notText

def list {α : Type} (read : Reader α) (needsItem : Bool := false) : Reader (List α)
  | .arr items => if needsItem && items.isEmpty then .fail .emptyList else .numbered (items.map read)
  | _ => .fail .notList

def choice (choices : List String) : Reader String
  | .str s => if choices.contains s then .ok s else .fail (.notOneOf choices)
  | _ => .fail (.notOneOf choices)

/-- The greatest double that still counts as an integer lies below this number, the least one above its
opposite. -/
def doubleLimit : Nat := Nat.pow 2 63

def integer : Reader Int
  | .num (.int n) => .ok n
  | .bool b => .ok (if b then 1 else 0)
  | .str s => match Number.readWireInteger s with
    | .ok n => .ok n
    | .error .malformed => .fail .unreadableInteger
    | .error .oversized => .fail .oversizedInteger
  | .num (.double x) =>
    if !x.isFinite then .fail .notFinite
    else match x.toInt? with
      | some n => if n.natAbs < doubleLimit then .ok n else .fail .oversizedInteger
      | none => .fail .fractional
  | _ => .fail .notInteger

/-- The words for the two truth values. -/
def booleanWords : List (String × Bool) :=
  (["0", "off", "f", "false", "n", "no"].map (·, false)) ++ (["1", "on", "t", "true", "y", "yes"].map (·, true))

/-- A whole number as a truth value. -/
def booleanOfInt (n : Int) : Checked Bool :=
  if n = 0 then .ok false else if n = 1 then .ok true else .fail .unreadableBoolean

def boolean : Reader Bool
  | .bool b => .ok b
  | .str s => match booleanWords.lookup (Text.foldAscii s) with
    | some b => .ok b
    | none => .fail .unreadableBoolean
  | .num (.int n) => if -doubleLimit ≤ n ∧ n < doubleLimit then booleanOfInt n else .fail .notBoolean
  | .num (.double x) => match x.toInt? with
    | some n => if n.natAbs < doubleLimit then booleanOfInt n else .fail .notBoolean
    | none => .fail .notBoolean
  | _ => .fail .notBoolean

def nullable {α : Type} (read : Reader α) : Reader (Option α)
  | .null => .ok none
  | j => (read j).map some

/-- A field that must be there. -/
def required {α : Type} (fields : Fields) (name : String) (read : Reader α) : Checked α :=
  match fields.lookup name with
  | some j => (read j).under [name]
  | none => .error [.at_ name .missing]

/-- A field that has a value if it is not there. -/
def optional {α : Type} (fields : Fields) (name : String) (default : α) (read : Reader α) : Checked α :=
  match fields.lookup name with
  | some j => (read j).under [name]
  | none => .ok default

/-- The names of fields that are not among the known ones, in order. -/
def strayNames (known : List String) (fields : Fields) : List String :=
  (fields.keys.filter fun k => !known.contains k).mergeSort (fun a b => decide (a ≤ b))

/-- Complaints about the fields whose names are not among the known ones, in the order of the names. -/
def strangers (known : List String) (c : Complaint) (fields : Fields) : List FieldError :=
  (strayNames known fields).map (.at_ · c)

/-- A value with complaints about fields that do not belong, after its own. -/
def closed {α : Type} (known : List String) (fields : Fields) (c : Checked α) : Checked α :=
  match strangers known .extra fields with
  | [] => c
  | es => .error (c.errors ++ es)

/-- An object. Of a request body it is said that it has no fields, elsewhere that it is not the record of a
given name. -/
def record {α : Type} (inBody : Bool) (model : String) (read : Fields → Checked α) : Reader α
  | .obj fields => read fields
  | _ => .fail (if inBody then .notFields else .notRecord model)

section Explained

open Checked (Explained)

variable {α : Type} {read : Reader α}

theorem explained_text (j : Json) : (text j).Explained := by
  unfold text
  split
  · exact .ok _
  · exact .fail _

theorem explained_list (h : ∀ j, (read j).Explained) (needsItem : Bool) (j : Json) :
    (list read needsItem j).Explained := by
  unfold list
  split
  · split
    · exact .fail _
    · refine .numbered fun c hc => ?_
      obtain ⟨k, -, rfl⟩ := List.mem_map.1 hc
      exact h k
  · exact .fail _

theorem explained_nullable (h : ∀ j, (read j).Explained) (j : Json) : (nullable read j).Explained := by
  unfold nullable
  split
  · exact .ok _
  · exact (h _).map _

theorem explained_required (h : ∀ j, (read j).Explained) (fields : Fields) (name : String) :
    (required fields name read).Explained := by
  unfold required
  split
  · exact (h _).under _
  · exact .error

theorem explained_optional (h : ∀ j, (read j).Explained) (fields : Fields) (name : String) (default : α) :
    (optional fields name default read).Explained := by
  unfold optional
  split
  · exact (h _).under _
  · exact .ok _

theorem explained_closed {c : Checked α} (h : c.Explained) (known : List String) (fields : Fields) :
    (closed known fields c).Explained := by
  unfold closed
  split
  · exact h
  next es hne =>
    intro es' hes
    cases hes
    exact fun hnil => hne (List.append_eq_nil_iff.1 hnil).2

theorem explained_record {read : Fields → Checked α} (h : ∀ fields, (read fields).Explained) (inBody : Bool)
    (model : String) (j : Json) : (record inBody model read j).Explained := by
  unfold record
  split
  · exact h _
  · exact .fail _

end Explained

end Reader

/-- An entry of a sort. -/
structure SortItem where
  column : String
  desc : Bool
  deriving DecidableEq, Repr, Inhabited

/-- The part of the result that is asked for: a page of some size, by its number from one or by the number of
rows before it. -/
structure Paging where
  size : Int
  number : Option Int := none
  offset : Option Int := none
  deriving DecidableEq, Repr, Inhabited

/-- The number of rows before the page. -/
def Paging.start (p : Paging) : Int :=
  match p.number with
  | some n => (n - 1) * p.size
  | none => p.offset.getD 0

/-- A request for data whose shape is right. -/
structure DataRequest where
  columns : List String
  filter : Json := .str "always"
  sort : List SortItem := []
  paging : Paging
  distinct : Bool := false
  deriving Repr, Inhabited

open Reader

/-- The entry for a column, which may say that it is one, and what more there is to it. -/
def readEntry {α : Type} (inBody : Bool) (model : String) (known : List String) (more : Fields → Checked α) :
    Reader (String × α) :=
  record inBody model fun fields =>
    closed (["type", "column"] ++ known) fields <|
      ((optional fields "type" "column" (choice ["column"])).both
        ((required fields "column" text).both (more fields))).map (·.2)

def readColumn (inBody : Bool) : Reader String :=
  fun j => (readEntry inBody "RequestColumn" [] (fun _ => .ok ()) j).map (·.1)

/-- The direction of a sort, given by name or by a flag; the name counts if both are there. -/
def readDirection (fields : Fields) : Checked Bool :=
  ((optional fields "dir" none (nullable (choice ["asc", "desc"]))).both
    (optional fields "desc" none (nullable boolean))).map fun (dir, desc) =>
      match dir with
      | some d => d == "desc"
      | none => desc.getD false

def SortItem.read (inBody : Bool) : Reader SortItem :=
  fun j => (readEntry inBody "RequestSortItem" ["dir", "desc"] readDirection j).map fun (column, desc) => ⟨column, desc⟩

def Paging.read (inBody : Bool) : Reader Paging :=
  record inBody "Paging" fun fields =>
    let read := closed ["size", "number", "offset"] fields <|
      ((required fields "size" integer).both
        ((optional fields "number" none (nullable integer)).both
          (optional fields "offset" none (nullable integer)))).map fun (size, number, offset) =>
            ({ size, number, offset } : Paging)
    match read with
    | .ok p => if p.number.isSome && p.offset.isSome then .fail .bothPositions else .ok p
    | failed => failed

/-- A filter, as far as its shape goes: a text or an object. -/
def readFilterShape : Reader Json
  | .str s => .ok (.str s)
  | .obj fields => .ok (.obj fields)
  | _ => .error [⟨["str"], .notText⟩, ⟨["dict[str,any]"], .notObject⟩]

def DataRequest.read (inBody : Bool) : Reader DataRequest :=
  record inBody "DataRequest" fun fields =>
    closed ["columns", "filter", "sort", "paging", "distinct"] fields <|
      ((required fields "columns" (list (readColumn inBody) true)).both
        ((optional fields "filter" (.str "always") readFilterShape).both
          ((optional fields "sort" [] (list (SortItem.read inBody))).both
            ((required fields "paging" (Paging.read inBody)).both
              (optional fields "distinct" false boolean))))).map
        fun (columns, filter, sort, paging, distinct) => { columns, filter, sort, paging, distinct }

end TableQuery
