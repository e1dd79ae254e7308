import Mathlib.Data.List.Nodup
import TableQuery.Proofs.Entity.Registry
import TableQuery.Proofs.Filter.Inversion
import TableQuery.Proofs.Request.Acceptance
import TableQuery.Proofs.Sql.Rows
import TableQuery.Request.Plan
import TableQuery.Service.Sample

/-!
# Plans of accepted requests

A request that fits the configuration of an entity has a plan (`Request.plan_succeeds`), in which every column
that it refers to can be read. Where no value is missing in the store that may not be missing
(`Entity.Respected`), none is in the joined rows (`Request.columnsThere`).
-/

set_option autoImplicit false

namespace TableQuery

open Sql (Query Store Env Table Value)

/-! ## Columns of a request -/

namespace Request

theorem firstUses_subset : ∀ (seen : List String) (cs : List ColumnDef), firstUses seen cs ⊆ cs
  | _, [] => List.Subset.refl _
  | seen, c :: cs => by
    rw [firstUses]
    split
    · exact List.subset_cons_of_subset _ (firstUses_subset _ cs)
    · exact List.cons_subset_cons _ (firstUses_subset _ cs)

theorem exists_mem_firstUses {cs : List ColumnDef} {c : ColumnDef} (hc : c ∈ cs) (seen : List String)
    (hseen : c.name ∉ seen) : ∃ c' ∈ firstUses seen cs, c'.name = c.name := by
  induction cs generalizing seen with
  | nil => cases hc
  | cons d cs ih =>
    rw [firstUses]
    rcases List.mem_cons.1 hc with rfl | hc
    · rw [if_neg (by simpa using hseen)]
      exact ⟨c, List.mem_cons_self, rfl⟩
    · split
      · exact ih hc seen hseen
      · by_cases hname : c.name = d.name
        · exact ⟨d, List.mem_cons_self, hname.symm⟩
        · obtain ⟨c', hc', heq⟩ := ih hc (d.name :: seen) (by simp [hname, hseen])
          exact ⟨c', List.mem_cons_of_mem _ hc', heq⟩

end Request

namespace FilterNode

variable {config : EntityConfig}

theorem Accepted.mem_joins {f : FilterNode} (h : Accepted config f) :
    ∀ n ∈ f.joins, ∃ d ∈ config.customFilters, n ∈ d.joins := by
  induction h with
  | op all inverse _ _ ih =>
    intro n hn
    rw [joins, mem_joinsOfAll] at hn
    obtain ⟨f, hf, hn⟩ := hn
    exact ih f hf n hn
  | @custom d params inverse hmem => exact fun n hn => ⟨d, hmem, hn⟩
  | _ => simp [joins]

end FilterNode

/-! ## Entities in a store -/

/-- The stored column that values are read from, if they are stored as they are. -/
def Sql.Source.column? : Sql.Source → Option Sql.Ref
  | .value (.column ref) => some ref
  | _ => none

namespace Entity

variable {e : Entity}

/-- In no row of a table is a value missing that a column of the entity declares to be there. -/
def Respected (e : Entity) (store : Store) : Prop :=
  ∀ c ∈ e.config.columns, c.type.isNullable = false → ∀ ref ∈ c.source.column?,
    ∀ t ∈ e.tables, t.name = ref.source → ∀ row ∈ store.rows t.table, (row.lookup ref.column).getD .null ≠ .null

instance (e : Entity) (store : Store) : Decidable (e.Respected store) :=
  inferInstanceAs (Decidable (∀ c ∈ e.config.columns, c.type.isNullable = false → ∀ ref ∈ c.source.column?,
    ∀ t ∈ e.tables, t.name = ref.source → ∀ row ∈ store.rows t.table, (row.lookup ref.column).getD .null ≠ .null))

/-- The sample data in a store that was empty before. -/
def sampleStore : Store :=
  match Sample.addTo {} ⟨⟨2024, 1, 15, by decide⟩, 12, 0, 0, 0, by decide⟩ with
  | .ok (_, store) => store
  | .error _ => {}

theorem respected_sampleStore : ∀ e ∈ all, e.Respected sampleStore := by
  decide +kernel

theorem WellFormed.eq_of_name (h : e.WellFormed) {c c' : ColumnDef} (hc : c ∈ e.config.columns)
    (hc' : c' ∈ e.config.columns) (hname : c'.name = c.name) : c' = c :=
  List.inj_on_of_nodup_map h.columnNames hc' hc hname

theorem WellFormed.name_ne_base (h : e.WellFormed) {j : JoinDef} (hj : j ∈ e.config.joins) :
    j.name ≠ e.base.name := by
  intro heq
  exact (List.nodup_cons.1 h.aliases).1 (heq ▸ List.mem_map_of_mem hj)

end Entity

/-! ## Plans -/

namespace Request

variable {e : Entity} {r : Request} {facility : Option String} {store : Store}

theorem mem_columns {config : EntityConfig} (hr : r.Accepted config) : ∀ c ∈ r.columns, c ∈ config.columns := by
  intro c hc
  have hc := firstUses_subset _ _ hc
  rw [List.mem_append, List.mem_append] at hc
  rcases hc with (hc | hc) | hc
  · exact hr.select c hc
  · exact hr.filter.mem_columns c hc
  · obtain ⟨p, hp, rfl⟩ := List.mem_map.1 hc
    exact hr.sort p hp

theorem neededJoins_known (he : e.WellFormed) (hr : r.Accepted e.config) :
    ∀ n ∈ r.neededJoins e.config, (JoinDefs.named? e.config.joins n).isSome := by
  intro n hn
  rw [neededJoins, List.mem_append, List.mem_append] at hn
  rcases hn with (hn | hn) | hn
  · obtain ⟨j, hj, rfl⟩ := List.mem_map.1 hn
    exact JoinDefs.isSome_named?.2 ⟨j, (List.mem_filter.1 hj).1, rfl⟩
  · obtain ⟨c, hc, hjoin⟩ := List.mem_filterMap.1 hn
    exact he.columnJoin c (mem_columns hr c hc) n hjoin
  · obtain ⟨d, hd, hn⟩ := hr.filter.mem_joins n hn
    exact he.customJoins d hd n hn

/-- The join of a column that a request refers to is needed. -/
theorem mem_neededJoins (he : e.WellFormed) (hr : r.Accepted e.config) {c : ColumnDef} {n : String}
    (hc : c ∈ r.select ++ r.filter.columns ++ r.sort.map (·.1)) (hmem : c ∈ e.config.columns) (hn : n ∈ c.join) :
    n ∈ r.neededJoins e.config := by
  obtain ⟨c', hc', hname⟩ := exists_mem_firstUses hc [] List.not_mem_nil
  have heq : c' = c := he.eq_of_name hmem (mem_columns hr c' hc') hname
  rw [neededJoins, List.mem_append, List.mem_append]
  exact Or.inl (Or.inr (List.mem_filterMap.2 ⟨c, heq ▸ hc', hn⟩))

theorem mem_neededJoins_of_required {j : JoinDef} (hj : j ∈ e.config.joins) (hreq : j.required = true) :
    j.name ∈ r.neededJoins e.config := by
  rw [neededJoins, List.append_assoc]
  exact List.mem_append_left _ (List.mem_map_of_mem (List.mem_filter.2 ⟨hj, hreq⟩))

def joinNames (e : Entity) (r : Request) : List String :=
  (JoinDefs.reachAll e.config.joins [] [] (r.neededJoins e.config)).1

theorem joinNames_eq_nil (h : r.neededJoins e.config = []) : r.joinNames e = [] := by
  rw [joinNames, h, JoinDefs.reachAll]

/-- The query for a request with these joins. -/
def planned (e : Entity) (facility : Option String) (r : Request) : Query :=
  (r.unjoined e facility).withJoined e.config.joins (r.joinNames e)

/-- **An accepted request has a plan.** -/
theorem plan_succeeds (he : e.WellFormed) (hr : r.Accepted e.config) (facility : Option String) :
    r.plan e facility = .ok (r.planned e facility) := by
  rw [plan, Query.joinAll_succeeds he.dependsOn (r.unjoined e facility) rfl (neededJoins_known he hr)]
  rfl

theorem mem_joins_planned {j : Sql.Join} (hj : j ∈ (r.planned e facility).joins) :
    ∃ d, JoinDefs.named? e.config.joins j.table.name = some d ∧ j = d.toJoin := by
  obtain ⟨n, -, d, hd, rfl⟩ := Query.mem_joins_withJoined.1 hj
  have hname : d.toJoin.table.name = n := JoinDefs.named?_name hd
  exact ⟨d, hname ▸ hd, rfl⟩

theorem left_planned (he : e.WellFormed) : ∀ j ∈ (r.planned e facility).joins, j.left = false := by
  intro j hj
  obtain ⟨d, hd, rfl⟩ := mem_joins_planned hj
  exact he.inner d (JoinDefs.named?_mem hd)

def plannedTables (e : Entity) (facility : Option String) (r : Request) : List Table :=
  (r.planned e facility).base :: (r.planned e facility).joins.map (·.table)

theorem plannedTables_inj (he : e.WellFormed) {t t' : Table} (ht : t ∈ r.plannedTables e facility)
    (ht' : t' ∈ r.plannedTables e facility) (hname : t'.name = t.name) : t' = t := by
  have hbase : ∀ j ∈ (r.planned e facility).joins, j.table.name ≠ e.base.name := by
    intro j hj
    obtain ⟨d, hd, rfl⟩ := mem_joins_planned hj
    exact he.name_ne_base (JoinDefs.named?_mem hd)
  rcases List.mem_cons.1 ht with rfl | ht <;> rcases List.mem_cons.1 ht' with rfl | ht'
  · rfl
  · obtain ⟨j, hj, rfl⟩ := List.mem_map.1 ht'
    exact absurd hname (hbase j hj)
  · obtain ⟨j, hj, rfl⟩ := List.mem_map.1 ht
    exact absurd hname.symm (hbase j hj)
  · obtain ⟨j, hj, rfl⟩ := List.mem_map.1 ht
    obtain ⟨j', hj', rfl⟩ := List.mem_map.1 ht'
    obtain ⟨d, hd, rfl⟩ := mem_joins_planned hj
    obtain ⟨d', hd', rfl⟩ := mem_joins_planned hj'
    rw [hname, hd] at hd'
    rw [Option.some.inj hd']

theorem plannedTables_subset {t : Table} (ht : t ∈ r.plannedTables e facility) : t ∈ e.tables := by
  rcases List.mem_cons.1 ht with rfl | ht
  · exact List.mem_cons_self
  · obtain ⟨j, hj, rfl⟩ := List.mem_map.1 ht
    obtain ⟨d, hd, rfl⟩ := mem_joins_planned hj
    exact List.mem_cons_of_mem _ (List.mem_map_of_mem (JoinDefs.named?_mem hd))

/-- A join that is needed belongs to the plan. -/
theorem mem_joins_of_needed (he : e.WellFormed) (hr : r.Accepted e.config) {n : String} {d : JoinDef}
    (hd : JoinDefs.named? e.config.joins n = some d) (hn : n ∈ r.neededJoins e.config) :
    d.toJoin ∈ (r.planned e facility).joins :=
  Query.mem_joins_withJoined.2
    ⟨n, (JoinDefs.reachAll_known he.dependsOn (neededJoins_known he hr)).1 hn, d, hd, rfl⟩

theorem exists_plannedTable_of_needed (he : e.WellFormed) (hr : r.Accepted e.config) {n : String}
    (hn : n ∈ r.neededJoins e.config) : ∃ t ∈ r.plannedTables e facility, t.name = n := by
  obtain ⟨d, hd⟩ := Option.isSome_iff_exists.1 (neededJoins_known he hr n hn)
  exact ⟨d.from, List.mem_cons_of_mem _ (List.mem_map_of_mem (mem_joins_of_needed he hr hd hn)),
    JoinDefs.named?_name hd⟩

/-- What a column of the request reads is a table of the plan. -/
theorem exists_plannedTable (he : e.WellFormed) (hr : r.Accepted e.config) {c : ColumnDef}
    (hc : c ∈ r.select ++ r.filter.columns ++ r.sort.map (·.1)) (hmem : c ∈ e.config.columns) {ref : Sql.Ref}
    (href : ref ∈ c.scalar.refs) : ∃ t ∈ r.plannedTables e facility, t.name = ref.source := by
  rcases he.reads c hmem ref href with hbase | hjoin
  · exact ⟨e.base, List.mem_cons_self, hbase.symm⟩
  · exact exists_plannedTable_of_needed he hr (mem_neededJoins he hr hc hmem hjoin)

/-- **In the joined rows of a plan every column of the request is there** that may not be missing. -/
theorem value_ne_null (he : e.WellFormed) (hr : r.Accepted e.config) (hstore : e.Respected store) {env : Sql.Env}
    (henv : env ∈ (r.planned e facility).joinedRows store) {c : ColumnDef}
    (hc : c ∈ r.select ++ r.filter.columns ++ r.sort.map (·.1)) (hmem : c ∈ e.config.columns)
    (hnull : c.type.isNullable = false) (size : Nat) : c.scalar.value store env size ≠ .null := by
  have hdrawn := Query.drawn_joinedRows rfl (left_planned he) env henv
  have hsuits := he.suits c hmem
  have htable : ∀ ref ∈ c.scalar.refs, ∃ t ∈ r.plannedTables e facility, t.name = ref.source :=
    fun ref href => exists_plannedTable he hr hc hmem href
  have hrespected := hstore c hmem hnull
  obtain ⟨name, type, source, join, dictionary, searchable⟩ := c
  cases source with
  | members m =>
    -- A list may always be missing.
    cases type <;> simp_all [ColumnType.isNullable, ColumnType.isList, ColumnType.kind, Sql.Source.suits,
      Kind.isList]
  | value s =>
    cases s with
    | nullTest ref n => simp [ColumnDef.scalar, Sql.Source.scalar, Sql.Scalar.value, Value.ofBool]
    | rowCount => simp [ColumnDef.scalar, Sql.Source.scalar, Sql.Scalar.value]
    | joined m => cases hsuits
    | column ref =>
      obtain ⟨t, ht, hname⟩ := htable ref (by simp [ColumnDef.scalar, Sql.Source.scalar, Sql.Scalar.refs])
      obtain ⟨row, hrow, hlookup⟩ := hdrawn.lookup ht fun t' ht' => plannedTables_inj he ht ht'
      have hthere := hrespected ref (Option.mem_some_self ref) t (plannedTables_subset ht) hname row hrow
      rw [hname] at hlookup
      show env.read ref ≠ .null
      rwa [Env.read, hlookup]

/-- **In the joined rows of a plan every column of the filter is there** that may not be missing. -/
theorem columnsThere (he : e.WellFormed) (hr : r.Accepted e.config) (hstore : e.Respected store) :
    ∀ env ∈ (r.planned e facility).joinedRows store, r.filter.ColumnsThere store env := by
  intro env henv t ht hnull
  have hc := hr.filter.column_mem_columns t ht
  exact value_ne_null he hr hstore henv (by simp [hc]) (hr.filter.mem_columns _ hc) hnull 1

end Request

end TableQuery
