import TableQuery.Filter.Node
import TableQuery.Request.Shape

/-!
# Reading filters

`FilterNode.readAt` reads a filter from JSON against the configuration of an entity. It is given the dotted path
at which the filter stands, and tells of everything that is wrong (`Reporting`): of an operation first, then of
each of its parts at the path of the part, whatever was told before. A filter of which nothing had to be told is
given back.

A list or an object in the place of a type or a name is no complaint but a fault (`Fault.wrongKind`), which ends
reading.
-/

set_option autoImplicit false

namespace TableQuery

open Reporting (tell tellAll refuse)

namespace FilterNode

/-- The kinds of filter objects with the fields that they can have. -/
def knownFields : List (String × List String) :=
  [("op", ["type", "op", "val", "inv"]), ("column", ["type", "column", "op", "val", "inv"]),
    ("custom", ["type", "customFilter", "params", "inv"]), ("global", ["type", "op", "val", "inv"])]

/-- A value that serves as a name, which a list or an object cannot. -/
def name (j : Json) : Except Fault Json :=
  if j.isContainer then .error .wrongKind else .ok j

/-- The operation on filters that a symbol stands for: `true` for all of them. -/
def operation? (j : Json) : Option Bool :=
  if j.isText "&" then some true else if j.isText "|" then some false else none

section Leaves

variable (config : EntityConfig) (path : String)

/-- Whether a filter is inverted. A flag that is no truth value does not count. -/
def inversionAt (fields : Fields) : Reporting Bool :=
  match fields.lookup "inv" with
  | none => return false
  | some (.bool b) => return b
  | some _ => do
    tell (dotted [path, "inv"]) .inversionNotBoolean
    return false

/-- The operands in the rest of a list, from a position on, but for those that a rule refuses. -/
def operandsAt (r : Rule) : Nat → List Json → Reporting (List Operand)
  | _, [] => return []
  | i, j :: js =>
    match r.read j with
    | .ok v => return v :: (← operandsAt r (i + 1) js)
    | .error p => do
      tell (dotted [path, toString i]) (.operand p)
      operandsAt r (i + 1) js

/-- The argument of an operator on a column of some type. -/
def argumentAt (t : ColumnType) (o : Operator) (fields : Fields) : Reporting (Option Argument) :=
  let path := dotted [path, "val"]
  match fields.lookup "val" with
  | none => if o = .null then return some .nothing else refuse path .valueRequired
  | some j =>
    if o = .null then refuse path .valueOfNull
    else match t.rule? o with
      | none => refuse path .noValues
      | some r =>
        if t.takesList o then
          match j with
          | .arr (v :: vs) => do
            let operands ← operandsAt path r 0 (v :: vs)
            return if operands.length = (v :: vs).length then some (.many operands) else none
          | _ => refuse path .noValues
        else match r.read j with
          | .ok v => return some (.one v)
          | .error p => refuse path (.operand p)

def columnFilterAt (fields : Fields) (inverse : Bool) : Reporting (Option FilterNode) := do
  let columnName ← name (fields.value "column")
  match columnName.str?.bind config.column? with
  | none => refuse (dotted [path, "column"]) (.unknownColumn columnName)
  | some c =>
    let symbol := fields.value "op"
    match (symbol.str?.bind Operator.ofSymbol?).filter c.type.accepts with
    | none => refuse (dotted [path, "op"]) (.operatorNotAllowed symbol c.name)
    | some o => return (← argumentAt path c.type o fields).map fun a => .column c o a inverse

def customFilterAt (fields : Fields) (inverse : Bool) : Reporting (Option FilterNode) := do
  let filterName ← name (fields.value "customFilter")
  match filterName.str?.bind config.customFilter? with
  | none => refuse (dotted [path, "customFilter"]) (.unknownCustomFilter filterName)
  | some f =>
    match f.readParams ((fields.lookup "params").getD (.obj [])) with
    | .ok p => return some (.custom f p inverse)
    | .error es => do
      tellAll (dotted [path, "params"]) es
      return none

/-- A search in all searchable columns. -/
def globalFilterAt (fields : Fields) (inverse : Bool) : Reporting (Option FilterNode) :=
  if !(fields.value "op").isText Operator.contains.symbol then refuse (dotted [path, "op"]) .globalOperator
  else match fields.value "val" with
    | .str s => return some (.global (Text.words s) (config.searchable.filter (·.isData)) inverse)
    | _ => refuse (dotted [path, "val"]) .globalText

/-- An operation on the filters that `parts` reads, if there are any. -/
def operationAt (parts : Reporting (Option (List (Option FilterNode)))) (fields : Fields) (inverse : Bool) :
    Reporting (Option FilterNode) := do
  let all? := operation? (fields.value "op")
  if all?.isNone then tell (dotted [path, "op"]) .unknownBoolOperator
  match ← parts with
  | none => refuse (dotted [path, "val"]) .noFilters
  | some filters => return do
    let all ← all?
    return .op all (← filters.mapM id) inverse

end Leaves

mutual

/-- The filter that a value at a path describes. -/
def readAt (config : EntityConfig) (path : String) : Json → Reporting (Option FilterNode)
  | .str s =>
    if s == "always" then return some (.const true)
    else if s == "never" then return some (.const false)
    else refuse path .notFilter
  | .obj fields => do
    let type ← name (Fields.value fields "type")
    match type.str?.bind fun s => (knownFields.lookup s).map (s, ·) with
    | none => refuse (dotted [path, "type"]) (.unknownFilterType type)
    | some (kind, known) =>
      (Reader.strayNames known fields).forM fun key => tell (dotted [path, key]) .unexpectedField
      let inverse ← inversionAt path fields
      if kind == "op" then operationAt path (partsAt config path fields) fields inverse
      else if kind == "column" then columnFilterAt config path fields inverse
      else if kind == "custom" then customFilterAt config path fields inverse
      else globalFilterAt config path fields inverse
  | _ => refuse path .notFilter

/-- The filters in the list that is the value of an operation, none if there is no such list or nothing in it. -/
def partsAt (config : EntityConfig) (path : String) : Fields → Reporting (Option (List (Option FilterNode)))
  | [] => return none
  | (k, v) :: rest =>
    if k == "val" then
      match v with
      | .arr [] => return none
      | .arr items => some <$> itemsAt config path 0 items
      | _ => return none
    else partsAt config path rest

/-- The filters that the rest of a list describes, from a position on. -/
def itemsAt (config : EntityConfig) (path : String) : Nat → List Json → Reporting (List (Option FilterNode))
  | _, [] => return []
  | i, j :: js => do
    let filter ← readAt config (dotted [path, "val", toString i]) j
    return filter :: (← itemsAt config path (i + 1) js)

end

end FilterNode

end TableQuery
