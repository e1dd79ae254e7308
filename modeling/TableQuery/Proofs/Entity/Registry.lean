import TableQuery.Entity.Registry
import TableQuery.Proofs.Entity.Joins

/-!
# What the entities keep to

The columns and joins of every entity fit together (`Entity.WellFormed`, `Entity.wellFormed_of_mem`): names are
unique, a column reads nothing but the base table and the table that it is joined to, and dependencies come
before what depends on them.
-/

set_option autoImplicit false

namespace TableQuery

/-- The values of a column of some type are members of a list iff the type has lists, and computed from the row
else. Members are read from the table that they are in. -/
def Sql.Source.suits (t : ColumnType) : Sql.Source → Bool
  | .value (.joined _) => false
  | .value _ => !t.isList
  | .members m => t.isList && m.value.source == m.table.name

/-- The columns of a configuration have their values where their types say, and its own filters look for members. -/
structure EntityConfig.Regular (c : EntityConfig) : Prop where
  suits : ∀ col ∈ c.columns, col.source.suits col.type = true
  searches : ∀ f ∈ c.customFilters, f.isSearch = true

namespace Entity

/-- The tables of an entity: that of its rows and those that can be joined. -/
def tables (e : Entity) : List Sql.Table := e.base :: e.config.joins.map (·.from)

/-- The columns, joins and filters of an entity fit together. -/
structure WellFormed (e : Entity) : Prop extends e.config.Regular where
  columnNames : (e.config.columns.map (·.name)).Nodup
  aliases : (e.base.name :: e.config.joins.map (·.name)).Nodup
  inner : ∀ j ∈ e.config.joins, j.left = false
  dependsOn : ∀ j ∈ e.config.joins, ∀ d ∈ j.dependsOn, (JoinDefs.named? e.config.joins d).isSome ∧
    JoinDefs.position e.config.joins d < JoinDefs.position e.config.joins j.name
  columnJoin : ∀ c ∈ e.config.columns, ∀ n ∈ c.join, (JoinDefs.named? e.config.joins n).isSome
  customJoins : ∀ f ∈ e.config.customFilters, ∀ n ∈ f.joins, (JoinDefs.named? e.config.joins n).isSome
  /-- A column reads the base table, or the table that it is joined to. -/
  reads : ∀ c ∈ e.config.columns, ∀ r ∈ c.scalar.refs, r.source = e.base.name ∨ r.source ∈ c.join

/-- **The parts of every entity fit together.** -/
theorem wellFormed_of_mem : ∀ e ∈ all, e.WellFormed := by
  have hcolumns : ∀ e ∈ all, (e.config.columns.map (·.name)).Nodup := by decide +kernel
  have haliases : ∀ e ∈ all, (e.base.name :: e.config.joins.map (·.name)).Nodup := by decide +kernel
  have hjoins : ∀ e ∈ all, ∀ j ∈ e.config.joins, j.left = false ∧ ∀ d ∈ j.dependsOn,
      (JoinDefs.named? e.config.joins d).isSome ∧
        JoinDefs.position e.config.joins d < JoinDefs.position e.config.joins j.name := by decide +kernel
  have hreads : ∀ e ∈ all, ∀ c ∈ e.config.columns, (∀ n ∈ c.join, (JoinDefs.named? e.config.joins n).isSome) ∧
      (∀ r ∈ c.scalar.refs, r.source = e.base.name ∨ r.source ∈ c.join) ∧
        c.source.suits c.type = true := by decide +kernel
  have hcustom : ∀ e ∈ all, ∀ f ∈ e.config.customFilters,
      (∀ n ∈ f.joins, (JoinDefs.named? e.config.joins n).isSome) ∧ f.isSearch = true := by decide +kernel
  exact fun e he =>
    { columnNames := hcolumns e he
      aliases := haliases e he
      inner := fun j hj => (hjoins e he j hj).1
      dependsOn := fun j hj => (hjoins e he j hj).2
      columnJoin := fun c hc => (hreads e he c hc).1
      customJoins := fun f hf => (hcustom e he f hf).1
      searches := fun f hf => (hcustom e he f hf).2
      reads := fun c hc => (hreads e he c hc).2.1
      suits := fun c hc => (hreads e he c hc).2.2 }

end Entity

end TableQuery
