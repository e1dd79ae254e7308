import TableQuery.Proofs.Request.Independence

/-!
# The rows of an entity and what is looked up for them
In a store with integrity a request goes through the rows that its entity has for every request (`Entity.core`), each
with the users that were looked up for it. Looking up users changes nothing of what is read from the tables that are
there anyway (`Entity.read_append`), so that the rows in scope are the same for all requests
(`Request.inScope_planned`), and a column that two requests refer to has the same value for both
(`Request.value_planned`). -/

set_option autoImplicit false

namespace TableQuery

open Sql (Clause Env Join Members Query Scope Store)

open Request (namedJoins mem_namedJoins)

namespace Entity

variable {e : Entity} {store : Store} {env : Env}

/-- The aliases of the tables that are there for every request. -/
def coreAliases (e : Entity) : List String := e.core.base.name :: e.core.joins.map (·.table.name)

/-- **What is read from the tables of an entity stays the same when rows are looked up.** -/
theorem read_append (he : e.WellFormed) (henv : env ∈ e.core.joinedRows store) {ref : Sql.Ref}
    (href : ref.source ∈ e.coreAliases) (more : Env) : Env.read (env ++ more) ref = env.read ref := by
  have hdrawn := Query.drawn_joinedRows rfl (left_core he) env henv
  obtain ⟨t, ht, hname⟩ : ∃ t ∈ e.core.base :: e.core.joins.map (·.table), t.name = ref.source := by
    have hmem : ref.source ∈ (e.core.base :: e.core.joins.map (·.table)).map (·.name) := by
      rw [List.map_cons, List.map_map]
      exact href
    exact List.mem_map.1 hmem
  obtain ⟨row, hrow⟩ := Option.isSome_iff_exists.1 (hdrawn.complete t ht)
  rw [hname] at hrow
  rw [Env.read, Env.read, List.lookup_append, hrow, Option.some_or]

theorem scope_mem_coreAliases (he : e ∈ all) : ∀ ref ∈ e.scope, ref.source ∈ e.coreAliases := by
  intro ref href
  obtain ⟨-, hbase | hjoin⟩ := (stored_of_mem e he).scope ref href
  · rw [hbase]
    exact List.mem_cons_self
  · obtain ⟨d, hd, hreq⟩ := (Option.any_eq_true _ _).1 hjoin
    have hrequired : ref.source ∈ e.requiredNames := by
      rw [← JoinDefs.named?_name hd]
      exact List.mem_map_of_mem (List.mem_filter.2 ⟨JoinDefs.named?_mem hd, hreq⟩)
    have hcore := requiredNames_subset (wellFormed_of_mem e he) hrequired
    have hjoin : d.toJoin ∈ e.core.joins := mem_namedJoins.2 ⟨_, hcore, d, hd, rfl⟩
    have hname : d.toJoin.table.name = ref.source := JoinDefs.named?_name hd
    rw [← hname]
    exact List.mem_cons_of_mem _ (List.mem_map_of_mem hjoin)

theorem mem_scope_of_mem_refs {facility : Option String} {c : Clause} (hc : c ∈ e.scopeClauses facility) :
    ∀ ref ∈ c.refs, ref ∈ e.scope := by
  unfold scopeClauses at hc
  split at hc
  · cases hc
  next ref f hscope =>
    rw [List.mem_singleton.1 hc]
    exact List.forall_mem_singleton.2 hscope
  next ref hscope =>
    rw [List.mem_singleton.1 hc]
    exact List.forall_mem_singleton.2 hscope

/-- Whether a row is in the scope of a facility does not depend on what is looked up for it. -/
theorem holds_scopeClauses (he : e ∈ all) (henv : env ∈ e.core.joinedRows store) (facility : Option String)
    (more : Env) :
    (e.scopeClauses facility).all (·.holds store (env ++ more)) =
      (e.scopeClauses facility).all (·.holds store env) := by
  have hclauses : ∀ c ∈ e.scopeClauses facility, c.holds store (env ++ more) = c.holds store env := by
    intro c hc
    have hrefs : Env.Agree (env ++ more) env c.refs := fun ref href =>
      read_append (wellFormed_of_mem e he) henv (scope_mem_coreAliases he ref (mem_scope_of_mem_refs hc ref href)) more
    refine Clause.holds_of_agree hrefs ?_
    rw [Request.lists_scopeClauses c hc]
    exact fun _ href => by cases href
  rw [Bool.eq_iff_iff, List.all_eq_true, List.all_eq_true]
  exact forall₂_congr fun c hc => by rw [hclauses c hc]

end Entity

namespace Request

variable {e : Entity} {r r' : Request} {facility : Option String} {store : Store} {extra extra' : List String}
  {env : Env}

/-- **The rows in scope are those of the entity**, each with the rows that are looked up for it. -/
theorem inScope_planned (he : e ∈ Entity.all) (hdefined : store.Defined) (hstore : store.Integral)
    (hextra : r.joinNames e = e.coreNames ++ extra) :
    e.inScope facility store (r.planned e facility) =
      (e.inScope facility store e.core).map fun env => env ++ Join.lookedUp store (namedJoins e extra) env := by
  rw [Entity.inScope, joinedRows_planned hextra he hdefined hstore, List.filter_map, Entity.inScope]
  refine congrArg (List.map _) (List.filter_congr fun env henv => ?_)
  exact Entity.holds_scopeClauses he henv facility _

/-- **A column that two requests refer to has the same value for both** in a row of the entity, whatever is looked up
for them. -/
theorem value_planned (he : e ∈ Entity.all) (hr : r.Accepted e.config) (hr' : r'.Accepted e.config)
    (hextra : r.joinNames e = e.coreNames ++ extra) (hextra' : r'.joinNames e = e.coreNames ++ extra')
    (henv : env ∈ e.core.joinedRows store) {c : ColumnDef} (hmem : c ∈ e.config.columns)
    (hc : c ∈ r.select ++ r.filter.columns ++ r.sort.map (·.1))
    (hc' : c ∈ r'.select ++ r'.filter.columns ++ r'.sort.map (·.1)) (size : Nat) :
    c.scalar.value store (env ++ Join.lookedUp store (namedJoins e extra) env) size =
      c.scalar.value store (env ++ Join.lookedUp store (namedJoins e extra') env) size := by
  have hwf := Entity.wellFormed_of_mem e he
  have hs := Entity.stored_of_mem e he
  -- What the column reads, from inside of its list as well, is in scope of either plan.
  have hhas : ∀ {r : Request}, r.Accepted e.config → c ∈ r.select ++ r.filter.columns ++ r.sort.map (·.1) →
      ∀ ref ∈ c.scalar.refs ++ c.scalar.lists.flatMap Members.outside,
        Scope.has (r.plannedTables e none) ref = true := by
    intro r hr hc ref href
    rcases List.mem_append.1 href with href | href
    · exact has_of_mem_refs hwf hs hr hc hmem ref href
    · obtain ⟨m, hm, href⟩ := List.mem_flatMap.1 href
      have hresolves : c.scalar.resolves (r.plannedTables e none) = true := resolves_scalar hwf hs hr hc hmem
      exact Members.has_outside (Sql.Scalar.resolves_of_mem_lists hresolves m hm) ref href
  have hagree : Env.Agree (env ++ Join.lookedUp store (namedJoins e extra) env)
      (env ++ Join.lookedUp store (namedJoins e extra') env)
      (c.scalar.refs ++ c.scalar.lists.flatMap Members.outside) := by
    intro ref href
    rw [Env.read, Env.read, lookup_planned hextra hwf henv (Scope.exists_of_has (hhas hr hc ref href)),
      lookup_planned hextra' hwf henv (Scope.exists_of_has (hhas hr' hc' ref href))]
  exact Sql.Scalar.value_of_agree (hagree.mono (List.subset_append_left _ _))
    (hagree.mono (List.subset_append_right _ _)) size

end Request

end TableQuery
