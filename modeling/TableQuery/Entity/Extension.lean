import TableQuery.Entity.Config
import TableQuery.Json.Display

/-!
# Extending a configuration

Configurations are built by applying extensions to a base, one after the other, and checking the result as a
whole. A join may be added twice, but two joins must not introduce one alias. A failure gives the first cause in
the order of the extensions, or of the checks.
-/

set_option autoImplicit false

namespace TableQuery

/-- What can be wrong with a configuration. -/
inductive ConfigError where
  | conflictingJoins (name : String)
  | unknownExtension (value : Json)
  | duplicateColumn (name : String)
  | unknownColumnJoin (column join : String)
  | noDictionary (column : String)
  | noMembers (column : String)
  | unknownDependency (join dependency : String)
  | unknownAssociatedColumn (filter column : String)
  | unknownSuggestedColumn (column : Json)
  | unknownSuggestedSort (column : Json)
  /-- A suggestion that has no elements, or an element of it that cannot be a name. -/
  | badSuggestion (value : Json)
  | unknownJoin (name : String)
  | circularJoin (path : List String)
  | unknownTableColumn (name : Json)
  /-- A joined table does not have a column. -/
  | noTargetColumn (column : String)
  deriving Repr

def ConfigError.message : ConfigError → String
  | conflictingJoins n => "Conflicting joins for alias " ++ Text.quoted n
  | unknownExtension v => "Unknown config extension: " ++ v.display
  | duplicateColumn n => "Duplicate column name " ++ Text.quoted n
  | unknownColumnJoin c j => "Column " ++ Text.quoted c ++ " requires unknown join " ++ Text.quoted j
  | noDictionary c => "Dictionary column " ++ Text.quoted c ++ " has no dictionary id"
  | noMembers c => "List column " ++ Text.quoted c ++ " has no list source"
  | unknownDependency j d => "Join " ++ Text.quoted j ++ " depends on unknown join " ++ Text.quoted d
  | unknownAssociatedColumn f c => "Custom filter " ++ Text.quoted f ++ " refers to unknown column " ++ Text.quoted c
  | unknownSuggestedColumn c => "Suggested column " ++ c.display ++ " does not exist"
  | unknownSuggestedSort c => "Suggested sort column " ++ c.display ++ " does not exist"
  | badSuggestion v => "No suggestion: " ++ v.display
  | unknownJoin n => "Unknown join " ++ Text.quoted n
  | circularJoin path => "Circular join dependency: " ++ " -> ".intercalate path
  | unknownTableColumn n => "Table column " ++ n.display ++ " is not in the schema"
  | noTargetColumn c => "No column " ++ Text.quoted c

/-- One change of a configuration. -/
inductive Extension where
  | column (c : ColumnDef)
  | join (j : JoinDef)
  /-- A column read from a joined table; the join is added as well. -/
  | joined (type : ColumnType) (j : JoinDef) (column name : String) (dictionary : Json) (searchable : Bool)
  | customFilter (f : CustomFilterDef)
  | suggestColumns (names : Json)
  | suggestSort (sort : List SortHint)
  /-- Something that is no extension. -/
  | other (value : Json)

namespace EntityConfig

/-- The configuration with a join, which it may have already. -/
def addJoin (c : EntityConfig) (j : JoinDef) : Except ConfigError EntityConfig :=
  match c.joins.find? (·.name == j.name) with
  | some existing => if existing = j then .ok c else .error (.conflictingJoins j.name)
  | none => .ok { c with joins := c.joins ++ [j] }

/-- The configuration with a column at the end. -/
def addColumn (c : EntityConfig) (column : ColumnDef) : EntityConfig :=
  { c with columns := c.columns ++ [column] }

/-- The configuration after one extension. -/
def apply (c : EntityConfig) : Extension → Except ConfigError EntityConfig
  | .column column => .ok (c.addColumn column)
  | .join j => c.addJoin j
  | .joined type j column name dictionary searchable => do
    let c ← c.addJoin j
    if j.columns.contains column then
      .ok (c.addColumn
        { name := name, type := type, source := .value (.column ⟨j.name, column⟩), join := some j.name,
          dictionary := dictionary, searchable := searchable })
    else .error (.noTargetColumn column)
  | .customFilter f => .ok { c with customFilters := c.customFilters ++ [f] }
  | .suggestColumns names =>
    match names.elements? with
    | some names => .ok { c with suggestedColumns := some names }
    | none => .error (.badSuggestion names)
  | .suggestSort sort => .ok { c with suggestedSort := sort }
  | .other v => .error (.unknownExtension v)

def applyAll (c : EntityConfig) : List Extension → Except ConfigError EntityConfig
  | [] => .ok c
  | e :: es => do applyAll (← c.apply e) es

/-- What is wrong with a column after columns of the given names. -/
def columnError? (c : EntityConfig) (before : List String) (column : ColumnDef) : Option ConfigError :=
  if before.contains column.name then some (.duplicateColumn column.name)
  else match column.join.filter (c.join? · |>.isNone) with
    | some j => some (.unknownColumnJoin column.name j)
    | none =>
      if column.type.kind.isDict && column.dictionary?.isNone then some (.noDictionary column.name)
      else if column.type.isList && !column.source.isList then some (.noMembers column.name)
      else none

/-- What is wrong with the first faulty column among `columns`, which follow columns of the given names. -/
def columnsError? (c : EntityConfig) : List String → List ColumnDef → Option ConfigError
  | _, [] => none
  | before, column :: rest =>
    (c.columnError? before column).orElse fun _ => c.columnsError? (column.name :: before) rest

/-- What is wrong with the first faulty join. -/
def joinsError? (c : EntityConfig) : Option ConfigError :=
  c.joins.findSome? fun j =>
    (j.dependsOn.find? (c.join? · |>.isNone)).map (.unknownDependency j.name)

def columnNames (c : EntityConfig) : List String := c.columns.map (·.name)

/-- What is wrong with a suggestion: it is no name at all, or none of a column. -/
def suggestionError? (c : EntityConfig) (unknown : Json → ConfigError) (name : Json) : Option ConfigError :=
  if name.isContainer then some (.badSuggestion name)
  else if name.isIn (c.columnNames.map .str) then none
  else some (unknown name)

/-- The first thing that is wrong with a configuration. -/
def error? (c : EntityConfig) : Option ConfigError :=
  let known := c.columnNames.contains
  (c.columnsError? [] c.columns).orElse fun _ =>
  c.joinsError?.orElse fun _ =>
  ((c.customFilters.find? (!known ·.associatedColumn)).map
    fun f => ConfigError.unknownAssociatedColumn f.name f.associatedColumn).orElse fun _ =>
  ((c.suggestedColumns.getD []).findSome? (c.suggestionError? .unknownSuggestedColumn)).orElse fun _ =>
  c.suggestedSort.findSome? fun s => c.suggestionError? .unknownSuggestedSort s.column

/-- The configuration after all extensions, if nothing is wrong with it. -/
def extend (c : EntityConfig) (extensions : List Extension) : Except ConfigError EntityConfig := do
  let c ← c.applyAll extensions
  match c.error? with
  | some e => .error e
  | none => .ok c

/-- The configuration after all extensions, or the base if they do not fit; for extensions that are known to
fit. -/
def extended (c : EntityConfig) (extensions : List Extension) : EntityConfig :=
  (c.extend extensions).toOption.getD c

end EntityConfig

end TableQuery
