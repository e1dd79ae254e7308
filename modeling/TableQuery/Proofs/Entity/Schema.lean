import Mathlib.Data.List.Nodup
import TableQuery.Filter.Reduction
import TableQuery.Proofs.Entity.Extension
import TableQuery.Proofs.Entity.Registry
import TableQuery.Proofs.Json.Fields
import TableQuery.Proofs.Outcomes

/-!
# What a client learns from a schema

From the schema of a configuration a client gets an entry for each column (`EntityConfig.clientColumns_eq`).
Where names are unique the entry under a name is that of the column (`EntityConfig.find?_clientColumns`), and it
tells whether values may be missing (`ColumnDef.isNullable_schemaFields`).
-/

set_option autoImplicit false

namespace TableQuery

def ColumnDef.schemaFields (c : ColumnDef) : Fields :=
  c.schema.fields?.getD []

/-- What a client that has the schema knows of the columns. -/
def EntityConfig.clientColumns (c : EntityConfig) : Except Fault ColumnSchemas :=
  match c.schema with
  | .obj fields => ColumnSchemas.ofFields fields
  | _ => .error .wrongKind

namespace ColumnDef

theorem schema_eq_obj (c : ColumnDef) : c.schema = .obj c.schemaFields := by
  unfold schemaFields schema
  split <;> rfl

theorem lookup_name_schemaFields (c : ColumnDef) : c.schemaFields.lookup "name" = some (.str c.name) := by
  unfold schemaFields schema
  split <;> rfl

theorem isText_type_schemaFields (c : ColumnDef) : (c.schemaFields.value "type").isText "count" = !c.isData := by
  obtain ⟨name, type, source, join, dictionary, searchable⟩ := c
  unfold schemaFields schema
  split
  next h =>
    -- No column but the count has the type `count`.
    have hcount : (type.kind.name == "count") = false := by
      cases type with
      | plain k =>
        cases k with
        | count => simp [isData] at h
        | _ => decide
      | _ => decide
    simp [h, Json.fields?, Fields.value, List.lookup_cons, Json.isText, hcount]
  next h =>
    rw [Bool.not_eq_true] at h
    rw [h]
    rfl

theorem isNullable_schemaFields (c : ColumnDef) : ColumnFilter.isNullable c.schemaFields = c.type.isNullable := by
  rw [ColumnFilter.isNullable, isText_type_schemaFields, Bool.not_not]
  unfold schemaFields schema
  split
  next h => simp [h, Json.fields?, Fields.value, List.lookup_cons, Json.truthy]
  next h =>
    have htype : c.type = .plain .count := by simpa [isData] using h
    rw [Bool.not_eq_true] at h
    rw [h, htype]
    rfl

end ColumnDef

namespace EntityConfig

variable {c : EntityConfig}

theorem mapM_entry (columns : List ColumnDef) : (columns.map ColumnDef.schema).mapM ColumnSchemas.entry =
    .ok (columns.map fun col => (.str col.name, col.schemaFields)) := by
  refine mapM_map_of_ok fun col _ => ?_
  rw [ColumnDef.schema_eq_obj, ColumnSchemas.entry, col.lookup_name_schemaFields]
  rfl

/-- **A client gets an entry for each column**, under its name. -/
theorem clientColumns_eq (c : EntityConfig) :
    c.clientColumns = .ok ⟨c.columns.map fun col => (.str col.name, col.schemaFields)⟩ := by
  unfold clientColumns schema
  dsimp only
  have hitems : ∀ rest : Fields,
      ColumnSchemas.itemsOf (("columns", .arr (c.columns.map ColumnDef.schema)) :: rest) =
      .ok (c.columns.map ColumnDef.schema) := fun rest => rfl
  simp only [List.cons_append, ColumnSchemas.ofFields, hitems, mapM_entry, bind, Except.bind, pure, Except.pure]

theorem find?_eq_some_of_unique {α : Type} {l : List α} {p : α → Bool} {a : α} (ha : a ∈ l) (hp : p a = true)
    (h : ∀ b ∈ l, p b = true → b = a) : l.find? p = some a := by
  obtain ⟨b, hb⟩ := Option.isSome_iff_exists.1 (List.find?_isSome.2 ⟨a, ha, hp⟩)
  rw [hb, h b (List.mem_of_find?_eq_some hb) (List.find?_some hb)]

theorem column?_of_mem (hnames : (c.columns.map (·.name)).Nodup) {col : ColumnDef} (hcol : col ∈ c.columns) :
    c.column? col.name = some col :=
  find?_eq_some_of_unique (List.mem_reverse.2 hcol) (beq_self_eq_true _) fun _ hcol' hname =>
    List.inj_on_of_nodup_map hnames (List.mem_reverse.1 hcol') hcol (beq_iff_eq.1 hname)

/-- The entry under the name of a column is that of the column, if no other column has the name. -/
theorem find?_clientColumns {s : ColumnSchemas} (hs : c.clientColumns = .ok s)
    (hnames : (c.columns.map (·.name)).Nodup)
    {name : String} {col : ColumnDef} (hcol : c.column? name = some col) :
    s.find? (.str name) = some col.schemaFields := by
  rw [clientColumns_eq] at hs
  rw [← Except.ok.inj hs, ColumnSchemas.find?]
  have hmem : col ∈ c.columns := List.mem_reverse.1 (List.mem_of_find?_eq_some hcol)
  have hname : col.name = name := by simpa using List.find?_some hcol
  have hentry : (Json.str col.name, col.schemaFields) ∈
      (c.columns.map fun col => (Json.str col.name, col.schemaFields)).reverse :=
    List.mem_reverse.2 (List.mem_map.2 ⟨col, hmem, rfl⟩)
  have hfound := find?_eq_some_of_unique (p := fun e : Json × Fields => e.1.same (.str name)) hentry
    (beq_iff_eq.2 hname)
    fun e he hsame => by
      obtain ⟨col', hcol', rfl⟩ := List.mem_map.1 (List.mem_reverse.1 he)
      have hname' : col'.name = name := beq_iff_eq.1 hsame
      rw [List.inj_on_of_nodup_map hnames hcol' hmem (hname'.trans hname.symm)]
  dsimp only
  rw [hfound, Option.map_some]

end EntityConfig

end TableQuery
