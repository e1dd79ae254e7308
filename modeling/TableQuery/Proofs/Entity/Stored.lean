import TableQuery.Proofs.Entity.Registry
import TableQuery.Proofs.Filter.Resolution
import TableQuery.Proofs.Store.Typed

/-!
# What the entities read is stored

Every column that an entity names belongs to one of its tables, and its values are of a kind that the type of the
column can show; all but the count are read from rows. Joins are made on columns of their own tables, of the base
table and of the joins that they depend on (`Entity.Stored`, `Entity.stored_of_mem`).
-/

set_option autoImplicit false

namespace TableQuery

open Sql (Scope)

namespace Entity

/-- What an entity reads is stored. -/
structure Stored (e : Entity) : Prop where
  columns : ∀ c ∈ e.config.columns, ∀ r ∈ c.scalar.refs, Scope.has e.tables r = true
  shown : ∀ c ∈ e.config.columns, ∃ k, c.scalar.kind? e.tables = some k ∧ c.type.shows k = true
  lists : ∀ c ∈ e.config.columns, ∀ m ∈ c.scalar.lists, m.isHeld = true
  counts : ∀ c ∈ e.config.columns, c.isData = false ↔ c.scalar = .rowCount
  /-- A join is made on its own table, the base table and the joins that it depends on. -/
  joins : ∀ j ∈ e.config.joins, ∀ c ∈ j.on, ∀ r ∈ c.refs, Scope.has e.tables r = true ∧
    (r.source = e.base.name ∨ r.source = j.name ∨ r.source ∈ j.dependsOn)
  /-- The scope is a column of the base table or of a join that is always made. -/
  scope : ∀ r ∈ e.scope, Scope.has e.tables r = true ∧
    (r.source = e.base.name ∨ (JoinDefs.named? e.config.joins r.source).any (·.required))
  customFilters : ∀ d ∈ e.config.customFilters, d.isHeld = true ∧ Scope.has e.tables d.rows.parent = true ∧
    (d.rows.parent.source = e.base.name ∨ d.rows.parent.source ∈ d.joins)

/-- **What the entities read is stored.** -/
theorem stored_of_mem : ∀ e ∈ all, e.Stored := by
  have hcolumns : ∀ e ∈ all, ∀ c ∈ e.config.columns, (∀ r ∈ c.scalar.refs, Scope.has e.tables r = true) ∧
      (c.scalar.kind? e.tables).any c.type.shows = true ∧ (∀ m ∈ c.scalar.lists, m.isHeld = true) ∧
      (c.isData = false ↔ c.scalar = .rowCount) := by
    decide +kernel
  have hjoins : ∀ e ∈ all, ∀ j ∈ e.config.joins, ∀ c ∈ j.on, ∀ r ∈ c.refs, Scope.has e.tables r = true ∧
      (r.source = e.base.name ∨ r.source = j.name ∨ r.source ∈ j.dependsOn) := by decide +kernel
  have hscope : ∀ e ∈ all, ∀ r ∈ e.scope, Scope.has e.tables r = true ∧
      (r.source = e.base.name ∨ (JoinDefs.named? e.config.joins r.source).any (·.required)) := by decide +kernel
  have hcustom : ∀ e ∈ all, ∀ d ∈ e.config.customFilters, d.isHeld = true ∧
      Scope.has e.tables d.rows.parent = true ∧
        (d.rows.parent.source = e.base.name ∨ d.rows.parent.source ∈ d.joins) := by decide +kernel
  exact fun e he =>
    { columns := fun c hc => (hcolumns e he c hc).1
      shown := fun c hc => (Option.any_eq_true _ _).1 (hcolumns e he c hc).2.1
      lists := fun c hc => (hcolumns e he c hc).2.2.1
      counts := fun c hc => (hcolumns e he c hc).2.2.2
      joins := hjoins e he
      scope := hscope e he
      customFilters := hcustom e he }

theorem WellFormed.eq_of_alias {e : Entity} (he : e.WellFormed) :
    ∀ t ∈ e.tables, ∀ t' ∈ e.tables, t'.name = t.name → t' = t := by
  have hnames : (e.tables.map (·.name)).Nodup := by
    rw [tables, List.map_cons, List.map_map]
    exact he.aliases
  exact fun t ht t' ht' hname => List.inj_on_of_nodup_map hnames ht' ht hname

end Entity

end TableQuery
