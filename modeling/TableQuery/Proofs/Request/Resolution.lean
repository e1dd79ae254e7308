import TableQuery.Proofs.Entity.Stored
import TableQuery.Proofs.Request.Scope

/-!
# Plans name columns of their own tables

Every column that the plan of an accepted request names, in what it selects, groups and sorts by, in its clauses and
in the conditions of its joins, belongs to one of the tables of the plan, and a join refers to its own table and to
those before it only (`Request.resolves_planned`).
-/

set_option autoImplicit false

namespace TableQuery.Request

open Sql (Clause Join Query Ref Scalar Scope Store Table)

variable {e : Entity} {r : Request} {facility : Option String}

/-! ## Joins -/

def namedJoins (e : Entity) (names : List String) : List Join :=
  names.filterMap fun name => (JoinDefs.named? e.config.joins name).map JoinDef.toJoin

theorem mem_namedJoins {names : List String} {j : Join} :
    j ∈ namedJoins e names ↔ ∃ n ∈ names, ∃ d, JoinDefs.named? e.config.joins n = some d ∧ j = d.toJoin := by
  simp only [namedJoins, List.mem_filterMap, Option.map_eq_some_iff, eq_comm (a := j)]

theorem base_cons_tables_subset (names : List String) : e.base :: (namedJoins e names).map (·.table) ⊆ e.tables := by
  refine List.cons_subset_cons e.base fun t ht => ?_
  obtain ⟨j, hj, rfl⟩ := List.mem_map.1 ht
  obtain ⟨n, -, d, hd, rfl⟩ := mem_namedJoins.1 hj
  exact List.mem_map_of_mem (JoinDefs.named?_mem hd)

/-- The table of a join is there under its name. -/
theorem exists_table_of_named {names : List String} {n : String} {d : JoinDef} (hn : n ∈ names)
    (hd : JoinDefs.named? e.config.joins n = some d) :
    ∃ t ∈ e.base :: (namedJoins e names).map (·.table), t.name = n := by
  have hj : d.toJoin ∈ namedJoins e names := mem_namedJoins.2 ⟨n, hn, d, hd, rfl⟩
  exact ⟨d.from, List.mem_cons_of_mem _ (List.mem_map_of_mem hj), JoinDefs.named?_name hd⟩

/-- **Joins that are made after those that they depend on refer to tables that are there.** -/
theorem joinsResolve_of_founded (he : e.WellFormed) (hs : e.Stored) {names : List String}
    (h : JoinDefs.Founded e.config.joins names) : Query.joinsResolve [e.base] (namedJoins e names) = true := by
  induction h with
  | nil => rfl
  | @snoc names name d hnames hd hdeps ih =>
    have hjoins : namedJoins e (names ++ [name]) = namedJoins e names ++ [d.toJoin] := by
      simp [namedJoins, List.filterMap_append, hd]
    -- The tables that are there before the join, and its own.
    have htables : [e.base] ++ (namedJoins e names).map (·.table) ++ [d.toJoin.table] =
        e.base :: (namedJoins e (names ++ [name])).map (·.table) := by
      rw [hjoins, List.map_append]
      rfl
    rw [hjoins, Query.joinsResolve_append, ih, Bool.true_and, List.all_eq_true, htables]
    intro c hc
    refine Sql.Condition.resolves_iff.2 fun ref href => ?_
    obtain ⟨hhas, hsource⟩ := hs.joins d (JoinDefs.named?_mem hd) c hc ref href
    have hthere : ∃ t ∈ e.base :: (namedJoins e (names ++ [name])).map (·.table), t.name = ref.source := by
      rcases hsource with hbase | hown | hdep
      · exact ⟨e.base, List.mem_cons_self, hbase.symm⟩
      · rw [hown, JoinDefs.named?_name hd]
        exact exists_table_of_named (by simp) hd
      · obtain ⟨d', hd'⟩ := Option.isSome_iff_exists.1 (he.dependsOn d (JoinDefs.named?_mem hd) _ hdep).1
        exact exists_table_of_named (List.mem_append_left _ (hdeps hdep)) hd'
    obtain ⟨t, ht, hname⟩ := hthere
    exact Scope.has_of_name (base_cons_tables_subset _) he.eq_of_alias hhas ht hname

/-! ## Plans -/

theorem scope_planned : (r.planned e facility).scope = r.plannedTables e facility := by
  rw [Query.scope, Query.crossed_eq_nil rfl, List.append_nil]
  rfl

/-- A column of the entity is in scope if a table of its name is. -/
theorem has_plannedTables (he : e.WellFormed) {ref : Ref} (hhas : Scope.has e.tables ref = true)
    (hthere : ∃ t ∈ r.plannedTables e facility, t.name = ref.source) :
    Scope.has (r.plannedTables e facility) ref = true := by
  obtain ⟨t, ht, hname⟩ := hthere
  exact Scope.has_of_name (fun _ => plannedTables_subset) he.eq_of_alias hhas ht hname

/-- What a column of the request reads is in scope. -/
theorem has_of_mem_refs (he : e.WellFormed) (hs : e.Stored) (hr : r.Accepted e.config) {c : ColumnDef}
    (hc : c ∈ r.select ++ r.filter.columns ++ r.sort.map (·.1)) (hmem : c ∈ e.config.columns) :
    ∀ ref ∈ c.scalar.refs, Scope.has (r.plannedTables e facility) ref = true :=
  fun ref href => has_plannedTables he (hs.columns c hmem ref href) (exists_plannedTable he hr hc hmem href)

/-- The values of a column of the request are in scope. -/
theorem resolves_scalar (he : e.WellFormed) (hs : e.Stored) (hr : r.Accepted e.config) {c : ColumnDef}
    (hc : c ∈ r.select ++ r.filter.columns ++ r.sort.map (·.1)) (hmem : c ∈ e.config.columns) :
    c.scalar.resolves (r.plannedTables e facility) = true :=
  Scalar.resolves_of_refs (has_of_mem_refs he hs hr hc hmem) (hs.lists c hmem)

theorem resolves_clausesIn (he : e.WellFormed) (hs : e.Stored) (hr : r.Accepted e.config) :
    ∀ c ∈ r.clausesIn e facility, c.resolves (r.plannedTables e facility) = true := by
  intro c hc
  rcases List.mem_append.1 hc with hc | hc
  · -- The scope is read from the base table, or from a join that is always made.
    have hscope : ∀ ref ∈ e.scope, Scope.has (r.plannedTables e facility) ref = true := by
      intro ref href
      obtain ⟨hhas, hbase | hjoin⟩ := hs.scope ref href
      · exact has_plannedTables he hhas ⟨e.base, List.mem_cons_self, hbase.symm⟩
      · obtain ⟨d, hd, hreq⟩ := (Option.any_eq_true _ _).1 hjoin
        have hneeded : ref.source ∈ r.neededJoins e.config :=
          JoinDefs.named?_name hd ▸ mem_neededJoins_of_required (JoinDefs.named?_mem hd) hreq
        exact has_plannedTables he hhas (exists_plannedTable_of_needed he hr hneeded)
    unfold Entity.scopeClauses at hc
    split at hc
    · cases hc
    next hscoped _ =>
      rw [List.mem_singleton.1 hc]
      exact hscope _ hscoped
    next hscoped _ =>
      rw [List.mem_singleton.1 hc]
      exact hscope _ hscoped
  · split at hc
    · cases hc
    · rw [List.mem_singleton.1 hc]
      refine FilterNode.resolves_clause hr.filter (fun c hc => ?_) hs.lists (fun d hd hjoins => ?_) false
      · exact has_of_mem_refs he hs hr (by simp [hc]) (hr.filter.mem_columns c hc)
      · obtain ⟨hheld, hparent, hsource⟩ := hs.customFilters d hd
        refine ⟨he.searches d hd, hheld, has_plannedTables he hparent ?_⟩
        rcases hsource with hbase | hjoin
        · exact ⟨e.base, List.mem_cons_self, hbase.symm⟩
        · exact exists_plannedTable_of_needed he hr (List.mem_append_right _ (hjoins hjoin))

/-- **Every column that a plan names belongs to one of its tables.** -/
theorem resolves_planned (he : e.WellFormed) (hs : e.Stored) (hr : r.Accepted e.config) :
    (r.planned e facility).resolves = true := by
  have hjoins : Query.joinsResolve [e.base] (r.planned e facility).joins = true :=
    joinsResolve_of_founded he hs (JoinDefs.reachAll_founded [] [] _ .nil)
  have hselect : ∀ c ∈ r.select, c.scalar.resolves (r.plannedTables e facility) = true :=
    fun c hc => resolves_scalar he hs hr (by simp [hc]) (hr.select c hc)
  have hgroup : ∀ s ∈ (r.planned e facility).groupBy, s.resolves (r.plannedTables e facility) = true := by
    intro s hscalar
    change s ∈ (if r.distinct then (r.select.filter (·.isData)).map (·.scalar) else []) at hscalar
    split at hscalar
    · obtain ⟨c, hc, rfl⟩ := List.mem_map.1 hscalar
      exact hselect c (List.mem_filter.1 hc).1
    · cases hscalar
  have hsort : ∀ p ∈ r.sort, p.1.scalar.resolves (r.plannedTables e facility) = true :=
    fun p hp => resolves_scalar he hs hr (by simp [List.mem_map_of_mem hp]) (hr.sort p hp)
  rw [Query.resolves, scope_planned]
  simp only [Bool.and_eq_true, List.all_eq_true]
  refine ⟨⟨⟨⟨hjoins, fun p hp => ?_⟩, resolves_clausesIn he hs hr⟩, hgroup⟩, fun p hp => ?_⟩
  · obtain ⟨c, hc, rfl⟩ := List.mem_map.1 hp
    exact hselect c hc
  · obtain ⟨q, hq, rfl⟩ := List.mem_map.1 hp
    exact hsort q hq

end TableQuery.Request
