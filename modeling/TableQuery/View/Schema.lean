import TableQuery.Filter.Reduction

/-!
# What a view reads from a schema

A view of a table gets the schema of an entity as JSON and takes from it the names of the columns, which of them
are shown at first, and the first order of the rows. Each of these can fail on its own if the schema is not what
it should be.
-/

set_option autoImplicit false

namespace TableQuery

/-- An entry of the order that a view asks for. -/
structure SortState where
  column : Json
  desc : Json
  deriving Repr, Inhabited

def SortState.same (a b : SortState) : Bool :=
  a.column.same b.column && a.desc.same b.desc

def Json.part (key : String) : Json → Except Fault Json
  | .obj fields => Fault.missingKey.orElse (fields.lookup key)
  | _ => .error .wrongKind

namespace ViewSchema

/-- A list of columns of which at least one is no object cannot be used; the count is no column here. -/
def columnName? : Json → Except Fault (Option Json)
  | .obj fields =>
    if (Fields.value fields "type").isText "count" then .ok none
    else do
      let name ← Fault.missingKey.orElse (fields.lookup "name")
      if name.isContainer then .error .wrongKind else .ok (some name)
  | _ => .error .missingPart

def columnNames (schema : Fields) : Except Fault (List Json) :=
  match schema.lookup "columns" with
  | none => .error .missingKey
  | some (.arr items) => do return (← items.mapM columnName?).filterMap id
  | some (.str "") | some (.obj []) => .ok []
  | some (.str _) | some (.obj _) => .error .missingPart
  | some _ => .error .wrongKind

/-- Whether a name is among the suggested ones. -/
def suggests (suggested name : Json) : Except Fault Bool :=
  match suggested, name with
  | .arr items, _ => .ok (name.isIn items)
  | .obj fields, _ => .ok (fields.any fun p => name.isText p.1)
  | .str s, .str name => .ok (Text.isPart name.toList s.toList)
  | _, _ => .error .wrongKind

/-- Which columns are shown at first: those that are suggested, or all if nothing is. -/
def visibility (schema : Fields) (names : List Json) : Except Fault NameMap := do
  match schema.value "suggestedColumns" with
  | .null => return NameMap.constant names (.bool true)
  | suggested =>
    let flags ← names.mapM fun name => return (name, ← suggests suggested name)
    return flags.foldl (fun m (name, shown) => m.set name (.bool shown)) []

/-- An entry of the suggested order. -/
def sortState (j : Json) : Except Fault SortState := do
  let column ← j.part "column"
  return ⟨column, .bool (((j.get? "dir").map (·.isText "desc")).getD false)⟩

/-- The suggested order; it may be missing or empty. -/
def sorting (schema : Fields) : Except Fault (List SortState) :=
  match schema.value "suggestedSort" with
  | .arr items => items.mapM sortState
  | j => if j.truthy then .error .wrongKind else .ok []

end ViewSchema

end TableQuery
