import TableQuery.Request.Shape
import TableQuery.Sql.Query
import TableQuery.Column.Kind

/-!
# Entity configurations

What a client can ask of a kind of entity: its columns and how each is computed, the joins that reach other
tables, the filters that the server defines, and suggestions for a first view. `EntityConfig.schema` is the part
of it that clients see.
-/

set_option autoImplicit false

namespace TableQuery

/-- A join that reaches a table under an alias, after the joins that it depends on. A required join belongs to
the rows of the entity and is always made. Two definitions are the same only if they have the same key. -/
structure JoinDef where
  key : String
  «from» : Sql.Table
  on : List Sql.Condition
  left : Bool := false
  dependsOn : List String := []
  required : Bool := false
  /-- The columns that the table has. -/
  columns : List String := []
  deriving DecidableEq, Repr, Inhabited

def JoinDef.name (j : JoinDef) : String := j.from.name

/-- A column of an entity. The source of a list column is a list. -/
structure ColumnDef where
  name : String
  type : ColumnType
  source : Sql.Source
  join : Option String := none
  /-- What identifies its dictionary, if it counts as true. -/
  dictionary : Json := .null
  searchable : Bool := false
  deriving Repr

namespace ColumnDef

def isData (c : ColumnDef) : Bool := c.type != .plain .count

def scalar (c : ColumnDef) : Sql.Scalar := c.source.scalar

def dictionary? (c : ColumnDef) : Option Json :=
  if c.dictionary.truthy then some c.dictionary else none

end ColumnDef

/-! ## Filters that the server defines -/

/-- The parameters of a custom filter as its model leaves them. -/
structure CustomParams where
  /-- The values that it looks for. -/
  wanted : List String := []
  /-- The kind that a member must have, if any. -/
  kind : Option String := none
  /-- What there is besides. -/
  others : Fields := []
  deriving Repr, Inhabited

/-- What a custom filter does with its parameters: it reads them, and compiles them to a clause. -/
structure CustomModel where
  readParams : Reader CustomParams
  compile : CustomParams → Sql.Clause
  /-- Parameters are refused with a reason. -/
  explained : ∀ j, (readParams j).Explained

/-- A search for members of a row that have one of some given values, and possibly a given kind. -/
structure MemberSearch where
  /-- What the record of its parameters is called. -/
  model : String := ""
  /-- The parameter with the values looked for. -/
  wantedKey : String := ""
  /-- The parameter with the kind. -/
  kindKey : String := ""
  /-- The rows that are looked at. -/
  rows : Sql.Members := default
  /-- The column that holds the value looked for. -/
  member : Sql.Ref := default
  /-- The column that holds the kind of a member. -/
  memberKind : Sql.Ref := default
  deriving DecidableEq, Repr

namespace MemberSearch

/-- The parameters of a search: a list of texts that is not empty, possibly a text, and nothing else. -/
def readParams (s : MemberSearch) : Reader CustomParams :=
  Reader.record false s.model fun fields =>
    Reader.closed [s.wantedKey, s.kindKey] fields <|
      ((Reader.required fields s.wantedKey (Reader.list Reader.text true)).both
        (Reader.optional fields s.kindKey none (Reader.nullable Reader.text))).map
          fun (wanted, kind) => { wanted, kind }

theorem explained_readParams (s : MemberSearch) (j : Json) : (s.readParams j).Explained := by
  refine Reader.explained_record (fun fields => Reader.explained_closed ?_ _ _) _ _ _
  have hwanted := Reader.explained_required (Reader.explained_list Reader.explained_text true) fields s.wantedKey
  have hkind := Reader.explained_optional (Reader.explained_nullable Reader.explained_text) fields s.kindKey none
  exact (hwanted.both hkind).map _

/-- Some member of the row has one of the wanted values, and the given kind. -/
def clause (s : MemberSearch) (p : CustomParams) : Sql.Clause :=
  let found := s.rows.where_ (.among s.member (p.wanted.map .text) false)
  .anyMember (match p.kind with
    | some k => found.where_ (.equals s.memberKind (.text k))
    | none => found)

end MemberSearch

/-- A filter that the server defines. It looks for members of a row unless it has a model of its own. -/
structure CustomFilterDef extends MemberSearch where
  name : String
  associatedColumn : String
  joins : List String := []
  own : Option CustomModel := none

instance : Repr CustomFilterDef := ⟨fun f _ => repr f.name⟩

namespace CustomFilterDef

def isSearch (f : CustomFilterDef) : Bool := f.own.isNone

def readParams (f : CustomFilterDef) : Reader CustomParams :=
  match f.own with
  | some m => m.readParams
  | none => f.toMemberSearch.readParams

/-- The clause that the parameters are compiled to. -/
def compile (f : CustomFilterDef) (p : CustomParams) : Sql.Clause :=
  match f.own with
  | some m => m.compile p
  | none => f.toMemberSearch.clause p

theorem explained_readParams (f : CustomFilterDef) (j : Json) : (f.readParams j).Explained := by
  rw [readParams]
  cases f.own with
  | some m => exact m.explained j
  | none => exact f.toMemberSearch.explained_readParams j

variable {f : CustomFilterDef}

theorem readParams_of_isSearch (h : f.isSearch = true) : f.readParams = f.toMemberSearch.readParams := by
  unfold readParams
  rw [Option.isNone_iff_eq_none.1 h]

theorem compile_of_isSearch (h : f.isSearch = true) : f.compile = f.toMemberSearch.clause := by
  unfold compile
  rw [Option.isNone_iff_eq_none.1 h]

end CustomFilterDef

/-! ## Configurations -/

/-- A suggested order. -/
structure SortHint where
  column : Json
  desc : Bool := false
  deriving Repr, Inhabited

/-- The configuration of an entity. -/
structure EntityConfig where
  columns : List ColumnDef := []
  joins : List JoinDef := []
  customFilters : List CustomFilterDef := []
  suggestedColumns : Option (List Json) := none
  suggestedSort : List SortHint := []
  deriving Repr, Inhabited

def countColumn : String := "count"

namespace EntityConfig

/-- The column with a name; the latest one if there are several. -/
def column? (c : EntityConfig) (name : String) : Option ColumnDef :=
  c.columns.reverse.find? (·.name == name)

/-- The join that introduces an alias; the latest one if there are several. -/
def join? (c : EntityConfig) (name : String) : Option JoinDef :=
  c.joins.reverse.find? (·.name == name)

/-- The custom filter with a name; the latest one if there are several. -/
def customFilter? (c : EntityConfig) (name : String) : Option CustomFilterDef :=
  c.customFilters.reverse.find? (·.name == name)

/-- The columns that a global filter searches. -/
def searchable (c : EntityConfig) : List ColumnDef :=
  c.columns.filter (·.searchable)

/-- The configuration with a column that counts rows, unless it has a column of that name. -/
def withCount (c : EntityConfig) : EntityConfig :=
  if c.columns.any (·.name == countColumn) then c
  else { c with columns := c.columns ++ [{ name := countColumn, type := .plain .count, source := .value .rowCount }] }

end EntityConfig

/-! ## The exported schema -/

def ColumnDef.schema (c : ColumnDef) : Json :=
  if c.isData then
    .obj ([("name", .str c.name), ("type", .str c.type.kind.name), ("nullable", .bool c.type.isNullable)] ++
      (c.dictionary?.map ("dictionaryId", ·)).toList)
  else .obj [("name", .str c.name), ("type", .str "count")]

def directionName (desc : Bool) : String :=
  if desc then "desc" else "asc"

def sortEntry (column : Json) (desc : Bool) : Json :=
  .obj [("type", .str "column"), ("column", column), ("dir", .str (directionName desc))]

def columnEntry (name : Json) : Json :=
  .obj [("type", .str "column"), ("column", name)]

def EntityConfig.schema (c : EntityConfig) : Json :=
  let custom := c.customFilters.foldl
    (fun fields f => Fields.set fields f.name (.obj [("associatedColumn", .str f.associatedColumn)])) []
  .obj ([("columns", .arr (c.columns.map ColumnDef.schema))] ++
    (if custom.isEmpty then [] else [("customFilters", .obj custom)]) ++
    (c.suggestedColumns.map fun names => ("suggestedColumns", Json.arr names)).toList ++
    (if c.suggestedSort.isEmpty then []
      else [("suggestedSort", .arr (c.suggestedSort.map fun s => sortEntry s.column s.desc))]))

end TableQuery
