import TableQuery.Proofs.Entity.Schema
import TableQuery.Proofs.Json.Names
import TableQuery.Proofs.View.Runs

/-!
# The schema of a configuration in a view

A view that gets the schema of a configuration knows the names of its data columns (`EntityConfig.columnNames_schema`),
shows some of them (`EntityConfig.exists_visibility`) and takes over the suggested order
(`EntityConfig.sorting_schema`). If there is a data column, nothing can go wrong (`TableView.setSchema_schema`).
-/

set_option autoImplicit false

namespace TableQuery

/-- The entry of an order that a suggestion stands for. -/
def SortHint.state (s : SortHint) : SortState := ⟨s.column, .bool s.desc⟩

namespace EntityConfig

variable {c : EntityConfig}

def dataNames (c : EntityConfig) : List String :=
  (c.columns.filter (·.isData)).map (·.name)

def schemaFields (c : EntityConfig) : Fields :=
  c.schema.fields?.getD []

theorem schema_eq_obj (c : EntityConfig) : c.schema = .obj c.schemaFields := rfl

/-! ## The fields of a schema -/

theorem lookup_columns_schema (c : EntityConfig) :
    c.schemaFields.lookup "columns" = some (.arr (c.columns.map ColumnDef.schema)) := rfl

theorem value_suggestedColumns_schema (c : EntityConfig) :
    c.schemaFields.value "suggestedColumns" = (c.suggestedColumns.map Json.arr).getD .null := by
  unfold schemaFields schema
  cases c.suggestedColumns <;> dsimp only [Json.fields?, Option.getD_some] <;> split <;> split <;> rfl

theorem value_suggestedSort_schema (c : EntityConfig) : c.schemaFields.value "suggestedSort" =
    if c.suggestedSort.isEmpty then .null else .arr (c.suggestedSort.map fun s => sortEntry s.column s.desc) := by
  unfold schemaFields schema
  cases c.suggestedColumns <;> dsimp only [Json.fields?, Option.getD_some] <;> split <;> split <;> rfl

/-! ## What a view takes from it -/

theorem columnName?_schema (col : ColumnDef) :
    ViewSchema.columnName? col.schema = .ok (if col.isData then some (.str col.name) else none) := by
  rw [ColumnDef.schema_eq_obj, ViewSchema.columnName?, ColumnDef.isText_type_schemaFields]
  cases col.isData with
  | false => rfl
  | true =>
    rw [ColumnDef.lookup_name_schemaFields]
    rfl

/-- **A view knows the names of the data columns.** -/
theorem columnNames_schema (c : EntityConfig) :
    ViewSchema.columnNames c.schemaFields = .ok (c.dataNames.map .str) := by
  have hnames : (c.columns.map ColumnDef.schema).mapM ViewSchema.columnName? =
      .ok (c.columns.map fun col => if col.isData then some (.str col.name) else none) :=
    mapM_map_of_ok fun col _ => columnName?_schema col
  have hdata : ∀ columns : List ColumnDef,
      (columns.map fun col => if col.isData then some (Json.str col.name) else none).filterMap id =
        ((columns.filter (·.isData)).map (·.name)).map Json.str := by
    intro columns
    induction columns with
    | nil => rfl
    | cons col columns ih =>
      rw [List.map_cons, List.filter_cons]
      cases col.isData with
      | false => exact ih
      | true => exact congrArg (Json.str col.name :: ·) ih
  rw [ViewSchema.columnNames, lookup_columns_schema]
  dsimp only
  rw [hnames]
  exact congrArg Except.ok (hdata c.columns)

theorem exists_visibility (c : EntityConfig) : ∃ visibility : NameMap,
    ViewSchema.visibility c.schemaFields (c.dataNames.map .str) = .ok visibility ∧ visibility.Over c.dataNames := by
  rw [ViewSchema.visibility, value_suggestedColumns_schema]
  cases c.suggestedColumns with
  | none => exact ⟨_, rfl, NameMap.over_constant c.dataNames _⟩
  | some suggested =>
    have hflags : (c.dataNames.map Json.str).mapM
        (fun name => return (name, ← ViewSchema.suggests (.arr suggested) name)) =
        (Except.ok (c.dataNames.map fun name => (Json.str name, (Json.str name).isIn suggested)) : Except Fault _) :=
      mapM_map_of_ok fun _ _ => rfl
    dsimp only [Option.map_some, Option.getD_some]
    rw [hflags]
    refine ⟨_, rfl, ?_⟩
    rw [List.foldl_map]
    exact List.foldlRecOn c.dataNames _ (.nil _) fun m hm name hname => hm.set hname _

/-- **A view takes over the suggested order.** -/
theorem sorting_schema (c : EntityConfig) :
    ViewSchema.sorting c.schemaFields = .ok (c.suggestedSort.map SortHint.state) := by
  have hentry : ∀ s : SortHint, ViewSchema.sortState (sortEntry s.column s.desc) = .ok s.state := by
    rintro ⟨column, desc⟩
    cases desc <;> rfl
  rw [ViewSchema.sorting, value_suggestedSort_schema]
  cases c.suggestedSort with
  | nil => rfl
  | cons s hints => exact mapM_map_of_ok fun s _ => hentry s

end EntityConfig

namespace TableView

variable {c : EntityConfig}

theorem showsSome_constant {names : List String} (hne : names ≠ []) :
    showsSome (NameMap.constant (names.map .str) (.bool true)) = true := by
  obtain ⟨p, hp, htrue⟩ := NameMap.exists_mem_constant (v := .bool true) (by simpa using hne : names.map Json.str ≠ [])
  exact List.any_eq_true.2 ⟨p, hp, by rw [htrue]; rfl⟩

theorem columnNames_of_schema {v : TableView} (h : v.schema = c.schema) :
    v.columnNames = .ok (c.dataNames.map .str) := by
  rw [columnNames, h, EntityConfig.schema_eq_obj]
  exact c.columnNames_schema

/-- In a view of data columns some column can be shown. -/
theorem exists_ensureVisible {v : TableView} (hdata : c.dataNames ≠ []) (hschema : v.schema = c.schema)
    (hover : v.visibility.Over c.dataNames) {previous : NameMap} (hprevious : previous.Over c.dataNames) :
    ∃ visibility : NameMap, visibility.Over c.dataNames ∧ showsSome visibility = true ∧
      v.ensureVisible previous = .ok { v with visibility } := by
  rw [ensureVisible]
  split
  next hsome => exact ⟨v.visibility, hover, hsome, rfl⟩
  next =>
    split
    next hsome => exact ⟨previous, hprevious, hsome, rfl⟩
    next =>
      rw [columnNames_of_schema hschema]
      exact ⟨_, NameMap.over_constant _ _, showsSome_constant hdata, rfl⟩

/-- **A view is set up for the schema of a configuration with data columns**: it shows some of them, has no filters of
columns, the suggested order and the first page. -/
theorem setSchema_schema (v : TableView) (hdata : c.dataNames ≠ []) :
    ∃ columnSchemas visibility, c.clientColumns = .ok columnSchemas ∧ visibility.Over c.dataNames ∧
      showsSome visibility = true ∧ v.setSchema c.schema = announce { v with
        schema := c.schema, columnSchemas, visibility, initialised := true,
        columnFilters := NameMap.constant (c.dataNames.map .str) .null,
        sorting := c.suggestedSort.map SortHint.state, pageIndex := .int 0 } := by
  obtain ⟨columnSchemas, hschemas⟩ : ∃ s, c.clientColumns = .ok s := ⟨_, c.clientColumns_eq⟩
  obtain ⟨suggested, hsuggested, hover⟩ := c.exists_visibility
  obtain ⟨visibility, hvisible, hsome, hensured⟩ := exists_ensureVisible (c := c)
    (v := { v with schema := c.schema, columnSchemas, visibility := suggested }) hdata rfl hover (.nil _)
  have hread : Fault.missingPart.orElse c.schema.fields? = .ok c.schemaFields := rfl
  have hfields : (Except.ok c.schemaFields).bind ColumnSchemas.ofFields = .ok columnSchemas := hschemas
  refine ⟨columnSchemas, visibility, hschemas, hvisible, hsome, ?_⟩
  rw [setSchema]
  dsimp only
  rw [hread, hfields]
  dsimp only
  rw [columnNames_of_schema (c := c) rfl]
  dsimp only
  rw [hsuggested]
  dsimp only
  rw [hensured, c.sorting_schema]
  rfl

end TableView

end TableQuery
